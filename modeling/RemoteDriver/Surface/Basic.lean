import RemoteDriver.Signature.Binding
import RemoteDriver.Signature.Parser

/-!
# Surfaces

A *shape* lists the operations of a reference type.  A *surface* is what a handle offers of it:
every public operation whose signature can be read is known to it, with its signature and its
documentation, and some names are overridden, which means that the handle answers them itself.
An override always wins.
-/

namespace RemoteDriver

/-- How an operation is reached. -/
inductive OperationKind
  /-- It is called. -/
  | method
  /-- It is read. -/
  | property
deriving DecidableEq, Repr

/-- One operation of a reference type. -/
structure OperationSpec where
  /-- Its name. -/
  name : String
  /-- How it is reached. -/
  kind : OperationKind
  /-- Its parameter list. -/
  signature : String
  /-- Its documentation, line by line as it was written. -/
  doc : String
deriving DecidableEq, Repr

/-- The operations of a reference type. -/
structure Shape where
  /-- The name of the type. -/
  typeName : String
  /-- The operations, private ones included. -/
  operations : List OperationSpec
deriving DecidableEq, Repr

/-- Whether a name is private: it begins with an underscore. -/
def isPrivate (name : String) : Bool := name.toList.head? = some '_'

/-- An operation that a surface knows. -/
structure Operation where
  /-- Its name. -/
  name : String
  /-- How it is reached. -/
  kind : OperationKind
  /-- Its signature. -/
  signature : Signature
  /-- Its documentation, without blanks at the ends of the lines. -/
  doc : String
deriving DecidableEq, Repr

/-- The operations that a kind of handle offers. -/
structure Surface where
  /-- The name of the reference type. -/
  typeName : String
  /-- The known operations, one of each name, in increasing order of the names. -/
  known : List Operation
  /-- The names that the handle answers itself, in increasing order. -/
  overrides : List String
  /-- The public operations whose signature could not be read, in the order of the shape. -/
  skipped : List String
deriving DecidableEq, Repr

/-- How a call by name is served. -/
inductive Binding
  /-- It is sent to the remote side. -/
  | generated (operation : Operation)
  /-- The handle answers it, whether or not the reference type has it. -/
  | overridden (operation : Option Operation)
deriving DecidableEq, Repr

namespace Surface

/-! ## Building -/

/-- An element put into an increasing list, in the place of one with the same key if there is
one. -/
def insertBy {α : Type} (key : α → String) (a : α) : List α → List α
  | [] => [a]
  | b :: rest =>
    if key a < key b then a :: b :: rest
    else if key a = key b then a :: rest
    else b :: insertBy key a rest

/-- Documentation with its lines trimmed, and the blank lines at its ends taken off. -/
def trimmedDoc (doc : String) : String :=
  String.ofList (Text.trim (Text.joined '\n' ((Text.pieces '\n' doc.toList).map Text.trim)))

/-- The operation of a specification, if its signature can be read. -/
def read? (spec : OperationSpec) : Option Operation :=
  match Signature.ofText spec.signature with
  | .ok signature => some ⟨spec.name, spec.kind, signature, trimmedDoc spec.doc⟩
  | .error _ => none

/-- The public operations of a shape. -/
def publicOperations (shape : Shape) : List OperationSpec :=
  shape.operations.filter fun spec => !isPrivate spec.name

/-- The surface of a shape with overrides.  Of several operations of one name the last one with
a readable signature is known. -/
def build (shape : Shape) (overrides : List String) : Surface where
  typeName := shape.typeName
  known := ((publicOperations shape).filterMap read?).foldl
    (fun sorted operation => insertBy (·.name) operation sorted) []
  overrides := overrides.foldl (fun sorted name => insertBy id name sorted) []
  skipped := ((publicOperations shape).filter fun spec => (read? spec).isNone).map (·.name)

/-! ## Asking -/

/-- The known operation of a name. -/
def operation? (s : Surface) (name : String) : Option Operation :=
  s.known.find? (·.name = name)

/-- Whether the handle answers a name itself. -/
def isOverridden (s : Surface) (name : String) : Bool := s.overrides.contains name

/-- All names that can be called, in increasing order. -/
def operations (s : Surface) : List String :=
  (s.known.map (·.name)).foldl (fun sorted name => insertBy id name sorted) s.overrides

/-- The error for a name that the surface does not offer. -/
def unknownOperation (s : Surface) (name : String) : Error :=
  .usage name (s.typeName ++ " has no operation `" ++ name ++ "`")

/-- How a name is served. -/
def binding (s : Surface) (name : String) : Except Error Binding :=
  if s.isOverridden name then .ok (.overridden (s.operation? name))
  else
    match s.operation? name with
    | some operation => .ok (.generated operation)
    | none =>
      if isPrivate name then
        .error (.usage name
          ("`" ++ name ++ "` is private to " ++ s.typeName ++ " and is not proxied"))
      else .error (s.unknownOperation name)

end Surface

end RemoteDriver
