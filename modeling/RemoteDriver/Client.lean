import RemoteDriver.Expected
import RemoteDriver.Gateway

/-!
# Clients

A client holds an endpoint and a key and nothing of the database.  Most operations are requests;
what concerns connections, sessions and the topology of servers is answered locally.  Handles of
databases are made locally too: each name has one handle for the life of the client.
-/

namespace RemoteDriver

open Bson (Document Value)

/-- A client. -/
structure Client where
  /-- Its connection. -/
  connection : Connection
  /-- Its options. -/
  options : Options

/-- A handle of a database. -/
structure Database where
  /-- The client that made it. -/
  owner : Client
  /-- The name of the database. -/
  name : String
  /-- What tells the handle apart from others. -/
  serial : Nat

namespace Client

/-! ## Making clients -/

/-- The client number `serial` of an endpoint. -/
def ofOptions (serial : Nat) (uri : String) (accessKey : List UInt8) (options : Options) :
    Except Error Client :=
  match Endpoint.urlOfText uri with
  | .error e => .error e
  | .ok url =>
    .ok ⟨⟨serial, ⟨url, accessKey⟩, options.codec, options.changeStreamTimeout⟩, options⟩

/-! ## The surface -/

/-- The operations about the topology of servers and about settings of connections.  A client has
neither, so they are answered with nothing. -/
def absentOperations : List String :=
  ["address", "arbiters", "codec_options", "is_mongos", "is_primary", "nodes", "options",
    "primary", "read_concern", "read_preference", "secondaries", "topology_description",
    "write_concern"]

/-- The operations that a client answers itself. -/
def localOperations : List String :=
  ["close", "get_database", "get_default_database", "start_session"] ++ absentOperations

/-- What a client offers. -/
def surface : Surface := .build .client localOperations

/-- What calls by name need. -/
def gateway (c : Client) : Gateway := ⟨surface, c.connection, .client, none⟩

/-- The description of a client. -/
def description (c : Client) (w : World) : String :=
  "Client \x7b endpoint: " ++ c.connection.endpoint.description ++ ", closed: "
    ++ Endpoint.truthText (w.isClosed c.connection.client) ++ " \x7d"

/-! ## Databases -/

/-- The key of a database in the world. -/
def databaseKey (c : Client) (name : String) : Nat × String := (c.connection.client, name)

/-- The handle of a database that the client makes or has made before. -/
def cached (c : Client) (name : String) : Action Database := fun _ w =>
  match w.databases.lookup (c.databaseKey name) with
  | some serial => (.ok ⟨c, name, serial⟩, w)
  | none =>
    let (serial, w) := w.fresh
    (.ok ⟨c, name, serial⟩, { w with databases := w.databases ++ [(c.databaseKey name, serial)] })

/-- The handle of a database by its name. -/
def getDatabase (c : Client) (name : Option String) : Action Database :=
  match name with
  | some name => if name = "" then refused else c.cached name
  | none => refused
where
  /-- The refusal of a missing name. -/
  refused : Action Database := Action.fail (.usage "get_database"
    ("database name must be a non-empty string; pass a name, or call "
      ++ "get_default_database()"))

/-- The handle of a database by its name, private or not. -/
def get (c : Client) (name : String) : Action Database := c.getDatabase (some name)

/-- The handle of a database as an attribute; private names are refused. -/
def attr (c : Client) (name : String) : Action Database :=
  if isPrivate name then
    Action.fail (.usage name ("MongoClient has no attribute `" ++ name
      ++ "`; to access the database use client.get(\"" ++ name ++ "\")"))
  else c.get name

/-- The handle of the default database, or of `fallback` where no default is set. -/
def defaultDatabase (c : Client) (fallback : Option String) : Action Database :=
  match c.options.defaultDatabase.or fallback with
  | some name => c.getDatabase (some name)
  | none => Action.fail (.usage "get_default_database"
      ("no default database configured; set ClientOptions::default_database or add "
        ++ "defaultDatabase to the endpoint URL"))

/-! ## Requests -/

/-- The named argument of a filter, if there is one. -/
def filterArgument (filter : Option Document) : Document :=
  match filter with
  | some d => [("filter", .document d)]
  | none => []

/-- A cursor over the descriptions of the databases. -/
def listDatabases (c : Client) (filter : Option Document) : Action Cursor :=
  c.gateway.cursor "list_databases" [] (filterArgument filter)

/-- The names of the databases. -/
def listDatabaseNames (c : Client) : Action (List String) := do
  let v ← c.gateway.value "list_database_names" [] []
  Action.ofExcept (Expected.names "list_database_names" v)

/-- Drops a database. -/
def dropDatabase (c : Client) (name : String) : Action Unit :=
  if name = "" then
    Action.fail (.usage "drop_database" "database name must be a non-empty string")
  else do
    let _ ← c.gateway.forward "drop_database" [.string name] []

/-- What the remote side tells about its server. -/
def serverInfo (c : Client) : Action Document := do
  let v ← c.gateway.value "server_info" [] []
  Action.ofExcept (Expected.document "server_info" v)

/-- Watches all databases for changes. -/
def watch (c : Client) (pipeline : Option (List Document)) : Action ChangeStream :=
  c.gateway.watch pipeline

/-- Sessions cannot be started. -/
def startSession {α : Type} (_ : Client) : Action α :=
  Action.fail (.usage "start_session"
    "sessions are not supported by the remote API; issue operations without a session")

/-- Closes the client: every further operation on it and on all handles obtained from it fails
without a request. -/
def close (c : Client) : Action Unit := do
  let _ ← c.connection.close

/-- Whether the client has been closed. -/
def isClosed (c : Client) : Action Bool := Action.look (·.isClosed c.connection.client)

end Client

end RemoteDriver
