import RemoteDriver.ChangeStream
import RemoteDriver.Surface.Shapes

/-!
# Calls by name

What every handle offers besides its own operations: a call of any known operation by its name.
The call is checked against the signature of the operation and forwarded as it is.
-/

namespace RemoteDriver

open Bson (Document Value)

/-- What a call by name needs of the handle that it is made on. -/
structure Gateway where
  /-- The operations that the handle offers. -/
  surface : Surface
  /-- The connection of its client. -/
  connection : Connection
  /-- The route of calls on it. -/
  route : Route
  /-- Who posts the request. -/
  sender : Sender

/-- Who serves a call by name. -/
inductive Server
  /-- The remote side. -/
  | remote
  /-- The handle itself. -/
  | handle
deriving DecidableEq, Repr

namespace Gateway

/-- Forwards a known operation, overridden or not. -/
def forward (g : Gateway) (name : String) (args : List Value) (kwargs : Document) : Action Reply :=
  match g.surface.operation? name with
  | none => Action.fail (g.surface.unknownOperation name)
  | some operation =>
    match operation.signature.bind name args kwargs with
    | .error e => Action.fail e
    | .ok _ => g.connection.dispatch g.sender ⟨name, args, kwargs⟩ g.route

/-- Who serves a call, once its arguments are found to fit. -/
def resolve (g : Gateway) (name : String) (args : List Value) (kwargs : Document) :
    Except Error Server :=
  match g.surface.binding name with
  | .error e => .error e
  | .ok (.generated _) => .ok .remote
  | .ok (.overridden none) => .ok .handle
  | .ok (.overridden (some operation)) =>
    match operation.signature.bind name args kwargs with
    | .error e => .error e
    | .ok _ => .ok .handle

/-- A cursor over the result set of a reply. -/
def openCursor (g : Gateway) (seed : CursorSeed) : Action Cursor := do
  let serial ← Action.fresh
  return .ofSeed g.connection g.route serial seed

/-- A change stream over the subscription of a reply. -/
def openStream (g : Gateway) (seed : StreamSeed) : Action ChangeStream := do
  let serial ← Action.fresh
  return .ofSeed g.connection g.route serial seed

/-- Forwards an operation whose reply is a value. -/
def value (g : Gateway) (name : String) (args : List Value) (kwargs : Document) :
    Action Value := do
  let reply ← g.forward name args kwargs
  Action.ofExcept (reply.toValue name)

/-- Forwards an operation whose reply is a result set. -/
def cursor (g : Gateway) (name : String) (args : List Value) (kwargs : Document) :
    Action Cursor := do
  let reply ← g.forward name args kwargs
  let seed ← Action.ofExcept (reply.toCursor name)
  g.openCursor seed

/-- Forwards an operation whose reply is a subscription. -/
def stream (g : Gateway) (name : String) (args : List Value) (kwargs : Document) :
    Action ChangeStream := do
  let reply ← g.forward name args kwargs
  let seed ← Action.ofExcept (reply.toStream name)
  g.openStream seed

/-- Watches for changes that a pipeline lets through, all changes without one. -/
def watch (g : Gateway) (pipeline : Option (List Document)) : Action ChangeStream :=
  let args := match pipeline with
    | some stages => [Value.documents stages]
    | none => []
  g.stream "watch" args []

end Gateway

/-- A text argument of a call, taken by position or by name; `null` counts as none. -/
def textArgument (operation : String) (args : List Value) (kwargs : Document) (name : String) :
    Except Error (Option String) :=
  match args.head?.or (kwargs.lookup name) with
  | none => .ok none
  | some .null => .ok none
  | some (.string s) => .ok (some s)
  | some other =>
    .error (.usage operation ("`" ++ name ++ "` must be a string, got " ++ other.typeName))

end RemoteDriver
