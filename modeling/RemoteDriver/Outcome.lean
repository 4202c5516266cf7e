import RemoteDriver.Collection

/-!
# Outcomes of calls by name

A call by name comes out as a value or as a handle.  Names that a handle overrides are answered by
the handle itself; all others go to the remote side once their arguments are found to fit.
-/

namespace RemoteDriver

open Bson (Document Value)

/-- What a call by name comes out as. -/
inductive Outcome
  /-- A value. -/
  | value (v : Value)
  /-- A result set. -/
  | cursor (c : Cursor)
  /-- A subscription. -/
  | changeStream (s : ChangeStream)
  /-- A database. -/
  | database (d : Database)
  /-- A collection. -/
  | collection (c : Collection)
  /-- A client. -/
  | client (c : Client)

namespace Outcome

/-- The kinds of outcomes. -/
inductive Kind
  /-- A value. -/
  | value
  /-- A result set. -/
  | cursor
  /-- A subscription. -/
  | changeStream
  /-- A database. -/
  | database
  /-- A collection. -/
  | collection
  /-- A client. -/
  | client
deriving DecidableEq, Repr

/-- The kind of an outcome. -/
def kind : Outcome → Kind
  | value _ => .value
  | cursor _ => .cursor
  | changeStream _ => .changeStream
  | database _ => .database
  | collection _ => .collection
  | client _ => .client

/-- The outcome of a reply on a handle. -/
def ofReply (g : Gateway) : Reply → Action Outcome
  | .value v => return .value v
  | .cursor seed => do return .cursor (← g.openCursor seed)
  | .stream seed => do return .changeStream (← g.openStream seed)

/-- A document as a value, `null` if there is none. -/
def ofDocument? : Option Document → Value
  | some d => .document d
  | none => .null

/-- A text as a value, `null` if there is none. -/
def ofText? : Option String → Value
  | some s => .string s
  | none => .null

end Outcome

namespace Gateway

/-- Forwards a known operation, overridden or not, and makes a handle of its reply. -/
def forwardOutcome (g : Gateway) (name : String) (args : List Value) (kwargs : Document) :
    Action Outcome := do
  let reply ← g.forward name args kwargs
  Outcome.ofReply g reply

/-- Calls an operation by name; `answer` is what the handle itself makes of it. -/
def invoke (g : Gateway) (name : String) (args : List Value) (kwargs : Document)
    (answer : Action Outcome) : Action Outcome :=
  match g.resolve name args kwargs with
  | .error e => Action.fail e
  | .ok .remote => g.forwardOutcome name args kwargs
  | .ok .handle => answer

end Gateway

namespace Client

/-- What a client itself makes of a call. -/
def answer (c : Client) (name : String) (args : List Value) (kwargs : Document) :
    Action Outcome :=
  if name = "get_database" then do
    let database ← Action.ofExcept (textArgument name args kwargs "name")
    return .database (← c.getDatabase database)
  else if name = "get_default_database" then do
    let fallback ← Action.ofExcept (textArgument name args kwargs "default")
    return .database (← c.defaultDatabase fallback)
  else if name = "start_session" then c.startSession
  else if name = "close" then do
    c.close
    return .value .null
  else if name ∈ absentOperations then return .value .null
  else Action.fail (surface.unknownOperation name)

/-- Calls any operation of a client by name. -/
def invoke (c : Client) (name : String) (args : List Value) (kwargs : Document) :
    Action Outcome :=
  c.gateway.invoke name args kwargs (c.answer name args kwargs)

end Client

namespace Database

/-- What a database itself makes of a call. -/
def answer (d : Database) (name : String) (args : List Value) (kwargs : Document) :
    Action Outcome :=
  if name = "name" then return .value (.string d.name)
  else if name = "client" then do return .client (← d.client)
  else if name = "get_collection" then do
    let collection ← Action.ofExcept (textArgument name args kwargs "name")
    return .collection (← Action.ofExcept (d.getCollection (collection.getD "")))
  else if name = "with_options" then return .database d
  else if name ∈ absentOperations then return .value .null
  else Action.fail (surface.unknownOperation name)

/-- Calls any operation of a database by name. -/
def invoke (d : Database) (name : String) (args : List Value) (kwargs : Document) :
    Action Outcome :=
  d.gateway.invoke name args kwargs (d.answer name args kwargs)

end Database

namespace Collection

/-- What a collection itself makes of a call. -/
def answer (c : Collection) (name : String) : Action Outcome :=
  if name = "name" then return .value (.string c.name)
  else if name = "full_name" then return .value (.string c.fullName)
  else if name = "database" then return .database c.database
  else if name = "with_options" then return .collection c
  else if name ∈ Database.absentOperations then return .value .null
  else Action.fail (surface.unknownOperation name)

/-- Calls any operation of a collection by name. -/
def invoke (c : Collection) (name : String) (args : List Value) (kwargs : Document) :
    Action Outcome :=
  c.gateway.invoke name args kwargs (c.answer name)

end Collection

namespace Cursor

/-- The operations that a cursor answers itself: all that it has. -/
def localOperations : List String :=
  ["address", "alive", "batch_size", "close", "cursor_id", "next", "session", "try_next"]

/-- What a cursor offers. -/
def surface : Surface := .build .cursor localOperations

/-- What calls by name need. -/
def gateway (c : Cursor) : Gateway := ⟨surface, c.connection, c.route, some c.serial⟩

/-- The size that a call asks batches to have: a whole number of 32 bits without a sign. -/
def sizeArgument (args : List Value) (kwargs : Document) : Option Nat :=
  match args.head?.or (kwargs.lookup "batch_size") with
  | some (.int32 n) => if 0 ≤ n.toInt then some n.toInt.toNat else none
  | some (.int64 n) =>
    if 0 ≤ n.toInt ∧ n.toInt ≤ Number.maxUInt32 then some n.toInt.toNat else none
  | _ => none

/-- What a cursor itself makes of a call. -/
def answer (c : Cursor) (name : String) (args : List Value) (kwargs : Document) (limits : Limits)
    (w : World) : Except Halt Outcome × Cursor × World :=
  if name = "alive" then (.ok (.value (.boolean c.isAlive)), c, w)
  else if name = "cursor_id" then (.ok (.value (Outcome.ofText? c.cursorId)), c, w)
  else if name = "address" ∨ name = "session" then (.ok (.value .null), c, w)
  else if name = "next" ∨ name = "try_next" then
    match c.tryNext limits w with
    | (.ok d, c, w) => (.ok (.value (Outcome.ofDocument? d)), c, w)
    | (.error h, c, w) => (.error h, c, w)
  else if name = "close" then
    match c.close limits w with
    | (.ok _, c, w) => (.ok (.value .null), c, w)
    | (.error h, c, w) => (.error h, c, w)
  else if name = "batch_size" then
    match sizeArgument args kwargs with
    | some size => (.ok (.value .null), c.withBatchSize size, w)
    | none =>
      (.error (.failed (.usage name "batch_size must be a non-negative integer")), c, w)
  else (.error (.failed (surface.unknownOperation name)), c, w)

/-- Calls any operation of a cursor by name. -/
def invoke (c : Cursor) (name : String) (args : List Value) (kwargs : Document) (limits : Limits)
    (w : World) : Except Halt Outcome × Cursor × World :=
  match c.gateway.resolve name args kwargs with
  | .error e => (.error (.failed e), c, w)
  | .ok .remote =>
    match c.gateway.forwardOutcome name args kwargs limits w with
    | (r, w) => (r, c, w)
  | .ok .handle => c.answer name args kwargs limits w

end Cursor

namespace ChangeStream

/-- The operations that a change stream answers itself: all that it has. -/
def localOperations : List String := ["alive", "close", "next", "resume_token", "try_next"]

/-- What a change stream offers. -/
def surface : Surface := .build .changeStream localOperations

/-- What calls by name need. -/
def gateway (s : ChangeStream) : Gateway := ⟨surface, s.connection, s.route, some s.serial⟩

/-- What a change stream itself makes of a call. -/
def answer (s : ChangeStream) (name : String) (limits : Limits) (w : World) :
    Except Halt Outcome × ChangeStream × World :=
  let event : Except Halt (Option Document) × ChangeStream × World →
      Except Halt Outcome × ChangeStream × World
    | (.ok d, s, w) => (.ok (.value (Outcome.ofDocument? d)), s, w)
    | (.error h, s, w) => (.error h, s, w)
  if name = "alive" then (.ok (.value (.boolean s.isAlive)), s, w)
  else if name = "resume_token" then (.ok (.value (Outcome.ofDocument? s.resumeToken)), s, w)
  else if name = "try_next" then event (s.tryNext limits w)
  else if name = "next" then event (s.nextEvent limits w)
  else if name = "close" then
    match s.close limits w with
    | (.ok _, s, w) => (.ok (.value .null), s, w)
    | (.error h, s, w) => (.error h, s, w)
  else (.error (.failed (surface.unknownOperation name)), s, w)

/-- Calls any operation of a change stream by name. -/
def invoke (s : ChangeStream) (name : String) (args : List Value) (kwargs : Document)
    (limits : Limits) (w : World) : Except Halt Outcome × ChangeStream × World :=
  match s.gateway.resolve name args kwargs with
  | .error e => (.error (.failed e), s, w)
  | .ok .remote =>
    match s.gateway.forwardOutcome name args kwargs limits w with
    | (r, w) => (r, s, w)
  | .ok .handle => s.answer name limits w

end ChangeStream

end RemoteDriver
