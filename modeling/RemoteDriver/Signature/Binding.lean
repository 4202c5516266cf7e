import RemoteDriver.Bson.Basic
import RemoteDriver.Error
import RemoteDriver.Signature.Printer

/-!
# Binding calls to signatures

Whether the arguments of a call fit a signature.  Only the count of the positional arguments and
the names of the others matter.  Surplus positional arguments are reported before faulty names,
and those before missing parameters.
-/

namespace RemoteDriver.Signature

/-- Why the arguments of a call do not fit. -/
inductive BindFault
  /-- There are more positional arguments than parameters to take them. -/
  | surplus (given : Nat)
  /-- A name is given for a parameter that a positional argument has filled. -/
  | repeated (name : String)
  /-- A name is given that no parameter takes. -/
  | unexpected (name : String)
  /-- A parameter without a default gets no argument. -/
  | missing (name : String)
deriving DecidableEq, Repr

/-- The message of a fault. -/
def BindFault.message (s : Signature) : BindFault → String
  | surplus given =>
    "takes " ++ toString s.positional.length ++ " positional argument(s) but " ++ toString given
      ++ " were given; signature is (" ++ s.text ++ ")"
  | repeated name => "got multiple values for argument `" ++ name ++ "`"
  | unexpected name =>
    "got an unexpected keyword argument `" ++ name ++ "`; signature is (" ++ s.text ++ ")"
  | missing name => "missing required argument `" ++ name ++ "`"

/-- Whether the first `count` positional arguments fill the parameter of this name. -/
def fills (s : Signature) (count : Nat) (name : String) : Bool :=
  (s.positional.take count).any (·.name = name)

/-- What is wrong with a name that is given beside `count` positional arguments, if anything. -/
def nameFault? (s : Signature) (count : Nat) (name : String) : Option BindFault :=
  if s.params.any fun p => p.name = name && p.kind.isNamed then
    if s.fills count name then some (.repeated name) else none
  else if s.has .variadicKeyword then none
  else some (.unexpected name)

/-- The first parameter without a default that gets no argument. -/
def missing? (s : Signature) (count : Nat) (names : List String) : Option Param :=
  s.params.find? fun p => p.isRequired && !names.contains p.name && !s.fills count p.name

/-- What is wrong with a call of `count` positional arguments and arguments of these names, if
anything. -/
def bindFault? (s : Signature) (count : Nat) (names : List String) : Option BindFault :=
  if s.positional.length < count ∧ !s.has .variadicPositional then some (.surplus count)
  else
    match names.findSome? (s.nameFault? count) with
    | some fault => some fault
    | none => (s.missing? count names).map fun p => .missing p.name

/-- Checks that the arguments of a call fit. -/
def bind (s : Signature) (operation : String) (args : List Bson.Value) (kwargs : Bson.Document) :
    Except Error Unit :=
  match s.bindFault? args.length (kwargs.map (·.1)) with
  | some fault => .error (.usage operation (fault.message s))
  | none => .ok ()

end RemoteDriver.Signature
