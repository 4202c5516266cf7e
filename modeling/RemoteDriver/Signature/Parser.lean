import RemoteDriver.Signature.Basic
import RemoteDriver.Text.Blank

/-!
# Reading signatures

A signature is written as its parameters with commas between them, as in
`a, b=None, *args, c=1, **kwargs`.  A star alone only marks that the parameters after it are
passed by name.  The pieces between the commas are taken in one after the other; the first piece
that does not fit is the fault.
-/

namespace RemoteDriver.Signature

/-- Why a text is no signature. -/
inductive Fault
  /-- Nothing stands between two commas. -/
  | emptyParameter
  /-- A piece is no parameter. -/
  | invalidParameter (piece : String)
  /-- A name stands twice. -/
  | duplicate (name : String)
  /-- A positional parameter without a default follows one that has a default. -/
  | requiredAfterOptional (name : String)
  /-- There is a second star. -/
  | multipleVariadic
  /-- Something follows the parameter that collects named arguments. -/
  | afterVariadicKeyword (piece : String)
deriving DecidableEq, Repr

/-- The message of a fault. -/
def Fault.message : Fault → String
  | emptyParameter => "empty parameter"
  | invalidParameter piece => "invalid parameter `" ++ piece ++ "`"
  | duplicate name => "duplicate parameter `" ++ name ++ "`"
  | requiredAfterOptional name =>
    "required parameter `" ++ name ++ "` follows an optional parameter"
  | multipleVariadic => "more than one variadic positional marker"
  | afterVariadicKeyword piece =>
    "parameter `" ++ piece ++ "` follows the variadic keyword parameter"

/-- What has been read of a signature. -/
structure Reading where
  /-- The parameters so far. -/
  params : List Param
  /-- Whether a star has been read, so that further parameters are passed by name. -/
  starred : Bool
  /-- Whether a positional parameter with a default has been read. -/
  optional : Bool
  /-- Whether the parameter that collects named arguments has been read. -/
  closed : Bool
deriving DecidableEq, Repr

/-- Nothing read yet. -/
def Reading.start : Reading := ⟨[], false, false, false⟩

/-- The stars in front of a piece: how the parameter behind them is passed, and that
parameter. -/
def stars (starred : Bool) : List Char → Kind × List Char
  | '*' :: '*' :: r => (.variadicKeyword, r)
  | '*' :: r => (.variadicPositional, r)
  | r => (if starred then .keywordOnly else .positional, r)

/-- A name with its default, the blanks around both taken off. -/
def nameAndDefault (s : List Char) : List Char × Option (List Char) :=
  match Text.cut? '=' s with
  | some (name, default) => (Text.trim name, some (Text.trim default))
  | none => (Text.trim s, none)

/-- Takes in a parameter of a kind; `piece` is the text it is read from. -/
def Reading.push (r : Reading) (kind : Kind) (piece rest : List Char) : Except Fault Reading :=
  let (name, default) := nameAndDefault rest
  let nameText := String.ofList name
  if !isIdentifier name || (!kind.isNamed && default.isSome) then
    .error (.invalidParameter (String.ofList piece))
  else if r.params.any (·.name = nameText) then .error (.duplicate nameText)
  else if kind = .positional ∧ default = none ∧ r.optional then
    .error (.requiredAfterOptional nameText)
  else
    .ok {
      params := r.params ++ [⟨nameText, kind, default.map String.ofList⟩]
      starred := r.starred || kind = .variadicPositional
      optional := r.optional || (kind = .positional && default.isSome)
      closed := kind = .variadicKeyword }

/-- Takes in a piece, whose ends are not blank. -/
def Reading.step (r : Reading) (piece : List Char) : Except Fault Reading :=
  if piece = [] then .error .emptyParameter
  else if r.closed then .error (.afterVariadicKeyword (String.ofList piece))
  else
    let (kind, rest) := stars r.starred piece
    if kind = .variadicPositional then
      if r.starred then .error .multipleVariadic
      else if rest = [] then .ok { r with starred := true }
      else r.push kind piece rest
    else r.push kind piece rest

/-- Takes in pieces in turn. -/
def Reading.steps (r : Reading) : List (List Char) → Except Fault Reading
  | [] => .ok r
  | piece :: rest =>
    match r.step (Text.trim piece) with
    | .ok r => r.steps rest
    | .error e => .error e

/-- The signature that a text stands for. -/
def ofText (text : String) : Except Fault Signature :=
  let s := Text.trim text.toList
  if s = [] then .ok ⟨[]⟩
  else (Reading.start.steps (Text.pieces ',' s)).map fun r => ⟨r.params⟩

end RemoteDriver.Signature
