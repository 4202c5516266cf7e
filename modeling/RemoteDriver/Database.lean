import RemoteDriver.Client

/-!
# Databases

A handle of a database forwards calls with the name of the database.  It outlives its client, but
then no longer leads back to it.
-/

namespace RemoteDriver

open Bson (Document Value)

/-- A handle of a collection. -/
structure Collection where
  /-- The database that it belongs to. -/
  database : Database
  /-- The name of the collection. -/
  name : String

namespace Database

/-- The settings that a handle does not have; they are answered with nothing. -/
def absentOperations : List String :=
  ["codec_options", "read_concern", "read_preference", "write_concern"]

/-- The operations that a database answers itself. -/
def localOperations : List String :=
  ["client", "get_collection", "name", "with_options"] ++ absentOperations

/-- What a database offers. -/
def surface : Surface := .build .database localOperations

/-- What calls by name need. -/
def gateway (d : Database) : Gateway := ⟨surface, d.owner.connection, .ofDatabase d.name, none⟩

/-- The description of a database. -/
def description (d : Database) : String := "Database \x7b name: " ++ Text.quoted d.name ++ " \x7d"

/-- Whether two handles are the same. -/
def isSame (a b : Database) : Bool := a.serial == b.serial

/-- The client that made the handle, as long as a handle of it is left. -/
def client (d : Database) : Action Client := do
  if ← Action.look (·.dropped.contains d.owner.connection.client) then
    Action.fail (.usage "client" ("the client that created this database has been dropped; "
      ++ "keep the Client alive while using its databases"))
  else return d.owner

/-- The handle of a collection by its name. -/
def getCollection (d : Database) (name : String) : Except Error Collection :=
  if name = "" then
    .error (.usage "get_collection" "collection name must be a non-empty string")
  else .ok ⟨d, name⟩

/-- The handle of a collection as an attribute; private names are refused. -/
def attr (d : Database) (name : String) : Except Error Collection :=
  if isPrivate name then
    .error (.usage name ("Database has no attribute `" ++ name
      ++ "`; to access the collection use db.get_collection(\"" ++ name ++ "\")"))
  else d.getCollection name

/-- A cursor over the descriptions of the collections. -/
def listCollections (d : Database) (filter : Option Document) : Action Cursor :=
  d.gateway.cursor "list_collections" [] (Client.filterArgument filter)

/-- The names of the collections. -/
def listCollectionNames (d : Database) (filter : Option Document) : Action (List String) := do
  let v ← d.gateway.value "list_collection_names" [] (Client.filterArgument filter)
  Action.ofExcept (Expected.names "list_collection_names" v)

/-- Runs a command and returns the document it answers with. -/
def command (d : Database) (command : Document) : Action Document := do
  let v ← d.gateway.value "command" [.document command] []
  Action.ofExcept (Expected.document "command" v)

/-- Makes a collection and returns its handle. -/
def createCollection (d : Database) (name : String) : Action Collection := do
  let collection ← Action.ofExcept (d.getCollection name)
  let _ ← d.gateway.forward "create_collection" [.string name] []
  return collection

/-- A cursor over the results of a pipeline. -/
def aggregate (d : Database) (pipeline : List Document) : Action Cursor :=
  d.gateway.cursor "aggregate" [.documents pipeline] []

/-- Watches the collections of the database for changes. -/
def watch (d : Database) (pipeline : Option (List Document)) : Action ChangeStream :=
  d.gateway.watch pipeline

/-- Drops a collection. -/
def dropCollection (d : Database) (name : String) : Action Unit :=
  if name = "" then
    Action.fail (.usage "drop_collection" "collection name must be a non-empty string")
  else do
    let _ ← d.gateway.forward "drop_collection" [.string name] []

end Database

end RemoteDriver
