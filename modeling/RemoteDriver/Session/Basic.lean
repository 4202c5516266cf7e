import RemoteDriver.Outcome

/-!
# Sessions

In a session handles have names, and commands are given to handles by their names.  A command may
make a new handle, which is kept under a name or left behind, and a few commands use the handle up
that they are given to.
-/

namespace RemoteDriver

open Bson (Document Value)

/-- What a name stands for. -/
inductive Handle
  /-- A client. -/
  | client (c : Client)
  /-- A database. -/
  | database (d : Database)
  /-- A collection. -/
  | collection (c : Collection)
  /-- A result set. -/
  | cursor (c : Cursor)
  /-- A subscription. -/
  | changeStream (s : ChangeStream)
  /-- The close signal of the subscription with this number. -/
  | closeSignal (subscription : Nat)

/-- The handle that a call by name came out as; a value is none. -/
def Outcome.handle? : Outcome → Option Handle
  | .value _ => none
  | .cursor c => some (.cursor c)
  | .changeStream s => some (.changeStream s)
  | .database d => some (.database d)
  | .collection c => some (.collection c)
  | .client c => some (.client c)

/-- What a client is made from. -/
structure Setup where
  /-- The URL of its endpoint. -/
  uri : String
  /-- Its access key. -/
  accessKey : List UInt8
  /-- Its options; without any, the URL tells them. -/
  options : Option Options

namespace Setup

/-- The client number `serial` that is made from a setup. -/
def client (s : Setup) (serial : Nat) : Except Error Client :=
  match s.options with
  | some options => Client.ofOptions serial s.uri s.accessKey options
  | none =>
    match Options.ofText s.uri with
    | .ok options => Client.ofOptions serial s.uri s.accessKey options
    | .error e => .error e

end Setup

/-! ## Commands -/

/-- What can be asked of handles.  No kind of handle knows all of it. -/
inductive Command
  /-- Where its calls go. -/
  | route
  /-- What it offers. -/
  | surface
  /-- A call of a known operation, overridden or not. -/
  | forward (call : Call)
  /-- The same, with a handle made of the reply. -/
  | forwardOutcome (call : Call) (into : Option Outcome.Kind)
  /-- A call of any operation. -/
  | invoke (call : Call) (into : Option Outcome.Kind)
  /-- Its description. -/
  | describe
  /-- Whether it is the same as another handle. -/
  | compare (other : String)
  /-- Nothing; its state is looked at. -/
  | look
  /-- The handle is let go. -/
  | forget
  /-- It is closed. -/
  | close
  /-- Whether it is closed. -/
  | isClosed
  /-- A database by its name. -/
  | getDatabase (name : Option String)
  /-- A database by its name, private or not. -/
  | get (name : String)
  /-- A database or a collection as an attribute. -/
  | member (name : String)
  /-- The default database. -/
  | defaultDatabase
  /-- The descriptions of the databases. -/
  | listDatabases (filter : Option Document)
  /-- The names of the databases. -/
  | listDatabaseNames
  /-- A database is dropped. -/
  | dropDatabase (name : String)
  /-- What is known of the server. -/
  | serverInfo
  /-- A subscription to changes. -/
  | watch (pipeline : Option (List Document))
  /-- A session with the server. -/
  | startSession
  /-- What is known of the topology of servers. -/
  | topology
  /-- What a client was made from. -/
  | settings
  /-- One more handle of a client. -/
  | clone
  /-- Another client on the same remote side. -/
  | newClient (setup : Setup)
  /-- Its name. -/
  | name
  /-- The client of a database. -/
  | client
  /-- A collection by its name. -/
  | getCollection (name : String)
  /-- The descriptions of the collections. -/
  | listCollections (filter : Option Document)
  /-- The names of the collections. -/
  | listCollectionNames (filter : Option Document)
  /-- A command of the server. -/
  | command (command : Document)
  /-- A collection is made. -/
  | createCollection (name : String)
  /-- The results of a pipeline. -/
  | aggregate (pipeline : List Document)
  /-- A collection of a database is dropped. -/
  | dropCollection (name : String)
  /-- Its name after the name of its database. -/
  | fullName
  /-- The database of a collection. -/
  | database
  /-- A document is inserted. -/
  | insertOne (document : Document)
  /-- Documents are inserted. -/
  | insertMany (documents : List Document)
  /-- The documents that match. -/
  | find (filter : Option Document) (options : List FindOption)
  /-- One document that matches. -/
  | findOne (filter : Option Document)
  /-- One document is updated. -/
  | updateOne (filter update : Document) (options : List UpdateOption)
  /-- Every document that matches is updated. -/
  | updateMany (filter update : Document) (options : List UpdateOption)
  /-- One document is replaced. -/
  | replaceOne (filter replacement : Document)
  /-- One document is deleted. -/
  | deleteOne (filter : Document)
  /-- Every document that matches is deleted. -/
  | deleteMany (filter : Document)
  /-- How many documents match. -/
  | countDocuments (filter : Option Document)
  /-- About how many documents there are. -/
  | estimatedDocumentCount
  /-- The different values of a field. -/
  | distinct (key : String) (filter : Option Document)
  /-- An index is made. -/
  | createIndex (keys : Document)
  /-- An index is dropped. -/
  | dropIndex (name : String)
  /-- The indexes. -/
  | listIndexes
  /-- The collection is dropped. -/
  | drop
  /-- A limit on the documents of a request is set. -/
  | batchSize (size : Nat)
  /-- The next batch is fetched. -/
  | advance
  /-- The next document, or an event if one comes. -/
  | tryNext
  /-- The next event. -/
  | nextEvent
  /-- All documents that are left; the cursor is used up. -/
  | collect
  /-- All items that are left, as a stream; the handle is used up. -/
  | stream
  /-- The first items that are left, as a stream; the handle is used up. -/
  | take (count : Nat)
  /-- The bound on a fetch is set. -/
  | setTimeout (timeout : Nat)
  /-- The close signal of a subscription. -/
  | closeSignal

/-! ## Results -/

/-- What a command brings. -/
inductive Result
  /-- It is done. -/
  | done
  /-- Yes or no. -/
  | truth (b : Bool)
  /-- Whether two handles are the same, if they are of one kind. -/
  | comparison (same : Option Bool)
  /-- A name or a description. -/
  | text (s : String)
  /-- A route. -/
  | route (r : Route)
  /-- What a handle offers. -/
  | surface (s : Surface)
  /-- A reply as it came. -/
  | reply (r : Reply)
  /-- What a call by name came out as. -/
  | outcome (o : Outcome)
  /-- The same as the kind that was asked for; nothing if it is of another kind. -/
  | converted (o : Option Outcome)
  /-- A handle. -/
  | handle (h : Handle)
  /-- A close signal, and whether it has fired. -/
  | signal (subscription : Nat) (fired : Bool)
  /-- What a client was made from. -/
  | settings (c : Client)
  /-- What is known of as many properties of the topology: nothing. -/
  | topology (properties : Nat)
  /-- Names. -/
  | names (names : List String)
  /-- A document, if there is one. -/
  | found (d : Option Document)
  /-- Documents. -/
  | documents (ds : List Document)
  /-- The items of a stream, and the error that ended it, if one did. -/
  | items (ds : List Document) (failure : Option Error)
  /-- The identifier of an inserted document. -/
  | insertedId (id : Value)
  /-- The identifiers of inserted documents. -/
  | insertedIds (ids : List Value)
  /-- What an update did. -/
  | updated (r : UpdateResult)
  /-- How many documents were deleted. -/
  | deleted (n : Nat)
  /-- A count of documents. -/
  | counted (n : Nat)
  /-- Values of a field. -/
  | values (vs : List Value)
  /-- The name of an index. -/
  | indexName (name : String)

namespace Result

/-- The result of a call by name; a kind that was asked for has to be met. -/
def ofOutcome (o : Outcome) : Option Outcome.Kind → Result
  | none => outcome o
  | some kind => converted (if o.kind = kind then some o else none)

/-- The handle that can be kept of a result. -/
def handle? : Result → Option Handle
  | handle h => some h
  | signal subscription _ => some (.closeSignal subscription)
  | outcome o => o.handle?
  | converted (some o) => o.handle?
  | _ => none

end Result

/-! ## The session -/

/-- Handles by their names, and the world that they live in. -/
structure Session where
  /-- The world. -/
  world : World
  /-- The handles. -/
  handles : List (String × Handle)

namespace Session

/-- The handle of a name. -/
def handle? (s : Session) (name : String) : Option Handle := s.handles.lookup name

/-- The handles with one kept under a name, in the place of an earlier one. -/
def kept (handles : List (String × Handle)) (name : String) (h : Handle) :
    List (String × Handle) :=
  (name, h) :: handles.filter fun entry => decide (entry.1 ≠ name)

/-- The handles without the one of a name. -/
def without (handles : List (String × Handle)) (name : String) : List (String × Handle) :=
  handles.filter fun entry => decide (entry.1 ≠ name)

/-- The clients among handles. -/
def clients (handles : List (String × Handle)) : List Nat :=
  handles.filterMap fun entry =>
    match entry.2 with
    | .client c => some c.connection.client
    | _ => none

/-- The session after a change of its handles.  Clients that lose their last handle are dropped. -/
def settled (s : Session) (handles : List (String × Handle)) : Session where
  world :=
    { s.world with
      dropped := s.world.dropped
        ++ (clients s.handles).filter fun client => !(clients handles).contains client }
  handles := handles

/-- A session with one client, under a name. -/
def start (remote : Remote) (name : String) (setup : Setup) : Except Error Session :=
  let (serial, w) := (World.start remote).fresh
  match setup.client serial with
  | .ok c => .ok ⟨w, [(name, .client c)]⟩
  | .error e => .error e

end Session

end RemoteDriver
