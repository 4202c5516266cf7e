import RemoteDriver.Codec
import RemoteDriver.Json.Printer
import RemoteDriver.Json.Reading

/-!
# Requests

A call is an operation with its arguments.  It is put into an envelope together with the route
that tells on which object it was made, and the envelope's JSON text is what is posted.
-/

namespace RemoteDriver

/-- The kinds of objects that calls are made on. -/
inductive Target
  /-- The client itself. -/
  | client
  /-- A database. -/
  | database
  /-- A collection. -/
  | collection
  /-- A result set. -/
  | commandCursor
  /-- A subscription to changes. -/
  | changeStream
deriving DecidableEq, Repr

namespace Target

/-- The name of a target on the wire. -/
def name : Target → String
  | client => "client"
  | database => "database"
  | collection => "collection"
  | commandCursor => "command_cursor"
  | changeStream => "change_stream"

/-- The target of a name. -/
def ofName? (name : String) : Option Target :=
  [client, database, collection, commandCursor, changeStream].find? (·.name = name)

end Target

/-- On which object a call is made. -/
structure Route where
  /-- The kind of the object. -/
  target : Target
  /-- The database, for everything below the client. -/
  database : Option String
  /-- The collection, for everything below a database. -/
  collection : Option String
  /-- The token that a result set or a subscription holds. -/
  state : Option String
deriving DecidableEq, Repr

namespace Route

/-- The route to the client. -/
def client : Route := ⟨.client, none, none, none⟩

/-- The route to a database. -/
def ofDatabase (name : String) : Route := ⟨.database, some name, none, none⟩

/-- The route to a collection. -/
def ofCollection (database name : String) : Route := ⟨.collection, some database, some name, none⟩

/-- The route to a stateful handle that was opened on this route and holds `token`. -/
def stateful (r : Route) (target : Target) (token : String) : Route :=
  { r with target := target, state := some token }

/-- The route to a stateful handle that was opened on this route; it keeps the route's state where
it holds no token. -/
def toHandle (r : Route) (target : Target) : Option String → Route
  | some token => r.stateful target token
  | none => { r with target := target }

/-- An optional member of an object. -/
def optional (name : String) : Option String → List (String × Json)
  | some s => [(name, .string s)]
  | none => []

/-- The route on the wire; what is absent is left out. -/
def toJson (r : Route) : Json :=
  .object (("target", .string r.target.name) :: (optional "database" r.database
    ++ optional "collection" r.collection ++ optional "state" r.state))

end Route

/-- An operation with its arguments. -/
structure Call where
  /-- The operation. -/
  name : String
  /-- The arguments by position. -/
  args : List Bson.Value
  /-- The arguments by name. -/
  kwargs : Bson.Document

namespace Call

/-- A call without arguments. -/
def bare (name : String) : Call := ⟨name, [], []⟩

/-- The call with one more argument by position. -/
def withArg (c : Call) (v : Bson.Value) : Call := { c with args := c.args ++ [v] }

/-- The call with an argument by name, in the place of an earlier one of this name. -/
def withKwarg (c : Call) (name : String) (v : Bson.Value) : Call :=
  { c with kwargs := Json.insert name v c.kwargs }

end Call

/-- What is posted. -/
structure Envelope where
  /-- The operation. -/
  operation : String
  /-- The encoded arguments by position. -/
  args : List Json
  /-- The encoded arguments by name. -/
  kwargs : List (String × Json)
  /-- On which object the call was made. -/
  context : Route

namespace Envelope

/-- The envelope on the wire. -/
def toJson (e : Envelope) : Json :=
  .object [("operation", .string e.operation), ("args", .array e.args),
    ("kwargs", .object e.kwargs), ("context", e.context.toJson)]

/-- The text that is posted. -/
def body (e : Envelope) : String := e.toJson.text

/-- Whether two envelopes are the same. -/
def same (a b : Envelope) : Bool :=
  a.operation == b.operation && Json.sameItems a.args b.args
    && Json.sameMembers a.kwargs b.kwargs && decide (a.context = b.context)

/-! ## Encoding calls -/

/-- The error of an argument that cannot be sent. -/
def refused (operation : String) (e : Error) : Error :=
  .usage operation ("argument cannot be sent: " ++ e.message)

/-- Values on the wire, or the error of the first that has no form there. -/
def encodeArgs (codec : Codec) : List Bson.Value → Except Error (List Json)
  | [] => .ok []
  | v :: vs =>
    match codec.encode v with
    | .error e => .error e
    | .ok j =>
      match encodeArgs codec vs with
      | .error e => .error e
      | .ok js => .ok (j :: js)

/-- Named values on the wire, or the error of the first that has no form there. -/
def encodeKwargs (codec : Codec) : Bson.Document → Except Error (List (String × Json))
  | [] => .ok []
  | (name, v) :: vs =>
    match codec.encode v with
    | .error e => .error e
    | .ok j =>
      match encodeKwargs codec vs with
      | .error e => .error e
      | .ok js => .ok ((name, j) :: js)

/-- The envelope of a call on a route. -/
def ofCall (codec : Codec) (call : Call) (route : Route) : Except Error Envelope :=
  match encodeArgs codec call.args with
  | .error e => .error (refused call.name e)
  | .ok args =>
    match encodeKwargs codec call.kwargs with
    | .error e => .error (refused call.name e)
    | .ok kwargs => .ok ⟨call.name, args, kwargs, route⟩

/-! ## Reading envelopes -/

open Json (Written)

/-- The members of a written record by name, or nothing if a name is no text or one of `known`
stands twice. -/
def knownMembers? (known : List String) (members : List (Option String × Written)) :
    Option (List (String × Written)) := do
  let named ← members.mapM fun (name, v) => name.map (·, v)
  let mine := named.filter fun (name, _) => known.contains name
  if (mine.map (·.1)).Nodup then some mine else none

/-- The members of a written record that may also be an array of its values in this order, the
last ones left out. -/
def record? (known : List String) : Written → Option (List (String × Written))
  | .object members => knownMembers? known members
  | .array items => if items.length ≤ known.length then some (known.zip items) else none
  | _ => none

/-- A text that may be absent; nothing if it is something else. -/
def optionalText? (name : String) (members : List (String × Written)) : Option (Option String) :=
  match members.lookup name with
  | none => some none
  | some .null => some none
  | some (.string s) => s.map some
  | some _ => none

/-- A target by its name, or as an object with the name and no value. -/
def target? : Written → Option Target
  | .string s => s.bind Target.ofName?
  | .object [(name, .null)] => name.bind Target.ofName?
  | _ => none

/-- The route that a written value stands for. -/
def route? (v : Written) : Option Route := do
  let members ← record? ["target", "database", "collection", "state"] v
  let target ← (members.lookup "target").bind target?
  let database ← optionalText? "database" members
  let collection ← optionalText? "collection" members
  let state ← optionalText? "state" members
  return ⟨target, database, collection, state⟩

/-- The envelope that a text stands for.  Members that envelopes do not have are ignored, whatever
they hold. -/
def ofText? (s : String) : Option Envelope := do
  let members ← record? ["operation", "args", "kwargs", "context"] (← Written.ofText? s)
  let operation ← match members.lookup "operation" with
    | some (.string s) => s
    | _ => none
  -- arguments stand two levels deep in the text
  let args ← match members.lookup "args" with
    | some (.array items) => Written.values (Json.maxDepth - 2) items
    | _ => none
  let kwargs ← match members.lookup "kwargs" with
    | some (.object ms) => (Written.namedValues (Json.maxDepth - 2) ms).map Json.distinct
    | _ => none
  let context ← (members.lookup "context").bind route?
  return ⟨operation, args, kwargs, context⟩

end Envelope

end RemoteDriver
