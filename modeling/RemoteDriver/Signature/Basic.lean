/-!
# Signatures

The parameter list of a reference operation: positional parameters, at most one that collects
surplus positional arguments, parameters that are passed by name only, and at most one that
collects surplus named arguments.
-/

namespace RemoteDriver

namespace Signature

/-- How a parameter receives its value. -/
inductive Kind
  /-- By position or by name. -/
  | positional
  /-- By name only. -/
  | keywordOnly
  /-- It collects surplus positional arguments. -/
  | variadicPositional
  /-- It collects surplus named arguments. -/
  | variadicKeyword
deriving DecidableEq, Repr

/-- Whether a parameter of this kind stands for one argument that may be named. -/
def Kind.isNamed : Kind → Bool
  | positional => true
  | keywordOnly => true
  | variadicPositional => false
  | variadicKeyword => false

/-- A parameter. -/
structure Param where
  /-- Its name. -/
  name : String
  /-- How it is passed. -/
  kind : Kind
  /-- Its default as it was written. -/
  default : Option String
deriving DecidableEq, Repr

/-- Whether a call has to supply this parameter. -/
def Param.isRequired (p : Param) : Bool := p.kind.isNamed && p.default.isNone

/-- Whether a text is a letter or an underscore followed by letters, digits and underscores, all
of them ASCII. -/
def isIdentifier : List Char → Bool
  | [] => false
  | c :: r => (c == '_' || c.isAlpha) && r.all fun c => c == '_' || c.isAlphanum

end Signature

/-- A parameter list in the order of its declaration. -/
structure Signature where
  /-- The parameters. -/
  params : List Signature.Param
deriving DecidableEq, Repr

namespace Signature

/-- The parameters that take a position. -/
def positional (s : Signature) : List Param := s.params.filter (·.kind = .positional)

/-- Whether there is a parameter of a kind. -/
def has (s : Signature) (kind : Kind) : Bool := s.params.any (·.kind = kind)

end Signature

end RemoteDriver
