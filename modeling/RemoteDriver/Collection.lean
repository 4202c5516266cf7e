import RemoteDriver.Database

/-!
# Collections

A handle of a collection forwards calls with the names of its database and of itself.  The common
operations have typed arguments and results; all others can be called by name.
-/

namespace RemoteDriver

open Bson (Document Value)

/-! ## Options of operations -/

/-- One option of a search. -/
inductive FindOption
  /-- The most documents to return. -/
  | limit (n : Int64)
  /-- How many documents to skip. -/
  | skip (n : Nat)
  /-- The order. -/
  | sort (keys : Document)
  /-- The fields to return. -/
  | projection (fields : Document)
  /-- How many documents a batch holds. -/
  | batchSize (n : UInt32)

/-- The options of a search. -/
structure FindOptions where
  /-- The most documents to return. -/
  limit : Option Int64
  /-- How many documents to skip. -/
  skip : Option Nat
  /-- The order. -/
  sort : Option Document
  /-- The fields to return. -/
  projection : Option Document
  /-- How many documents a batch holds. -/
  batchSize : Option UInt32

namespace FindOptions

/-- No options. -/
def none : FindOptions := ⟨.none, .none, .none, .none, .none⟩

/-- The options with one set. -/
def set (o : FindOptions) : FindOption → FindOptions
  | .limit n => { o with limit := some n }
  | .skip n => { o with skip := some n }
  | .sort keys => { o with sort := some keys }
  | .projection fields => { o with projection := some fields }
  | .batchSize n => { o with batchSize := some n }

/-- The options that are set one after the other. -/
def ofList (settings : List FindOption) : FindOptions := settings.foldl set none

/-- A named argument, if there is a value for it. -/
def argument (name : String) : Option Value → Document
  | some v => [(name, v)]
  | .none => []

/-- The named arguments of a search.  The number of documents to skip has to fit into 64 bits with
a sign. -/
def toKwargs (o : FindOptions) : Except Error Document :=
  let tooLarge := match o.skip with
    | some n => !Number.fitsInt64 n
    | .none => false
  if tooLarge then
    .error (.usage "find" ("skip " ++ toString (o.skip.getD 0)
      ++ " exceeds the largest signed 64-bit value"))
  else .ok (argument "projection" (o.projection.map .document)
    ++ argument "skip" (o.skip.map fun n => .int64 (Int64.ofInt n))
    ++ argument "limit" (o.limit.map .int64)
    ++ argument "sort" (o.sort.map .document)
    ++ argument "batch_size" (o.batchSize.map fun n => .int64 (Int64.ofInt n.toNat)))

end FindOptions

/-- One option of an update. -/
inductive UpdateOption
  /-- Whether a document is inserted where none matches. -/
  | upsert (b : Bool)
  /-- Which elements of arrays are updated. -/
  | arrayFilters (filters : List Document)

/-- The options of an update. -/
structure UpdateOptions where
  /-- Whether a document is inserted where none matches. -/
  upsert : Option Bool
  /-- Which elements of arrays are updated. -/
  arrayFilters : Option (List Document)

namespace UpdateOptions

/-- No options. -/
def none : UpdateOptions := ⟨.none, .none⟩

/-- The options with one set. -/
def set (o : UpdateOptions) : UpdateOption → UpdateOptions
  | .upsert b => { o with upsert := some b }
  | .arrayFilters filters => { o with arrayFilters := some filters }

/-- The options that are set one after the other. -/
def ofList (settings : List UpdateOption) : UpdateOptions := settings.foldl set none

/-- The named arguments of an update. -/
def toKwargs (o : UpdateOptions) : Document :=
  FindOptions.argument "upsert" (o.upsert.map .boolean)
    ++ FindOptions.argument "array_filters" (o.arrayFilters.map .documents)

end UpdateOptions

/-- What an update did. -/
structure UpdateResult where
  /-- How many documents matched. -/
  matchedCount : Nat
  /-- How many documents were changed. -/
  modifiedCount : Nat
  /-- The identifier of the document that was inserted, if one was. -/
  upsertedId : Option Value

namespace Collection

/-! ## The handle -/

/-- The operations that a collection answers itself. -/
def localOperations : List String :=
  ["database", "full_name", "name", "with_options"] ++ Database.absentOperations

/-- What a collection offers. -/
def surface : Surface := .build .collection localOperations

/-- The route of calls on it. -/
def route (c : Collection) : Route := .ofCollection c.database.name c.name

/-- What calls by name need. -/
def gateway (c : Collection) : Gateway := ⟨surface, c.database.owner.connection, c.route, none⟩

/-- The name of the collection after the name of its database and a point. -/
def fullName (c : Collection) : String := c.database.name ++ "." ++ c.name

/-- The description of a collection. -/
def description (c : Collection) : String :=
  "Collection \x7b full_name: " ++ Text.quoted c.fullName ++ " \x7d"

/-- Whether two handles lead to the same collection by the same database handle. -/
def isSame (a b : Collection) : Bool := a.database.isSame b.database && a.name == b.name

/-- Forwards an operation whose result is a document. -/
def result (c : Collection) (operation : String) (args : List Value) (kwargs : Document) :
    Action Document := do
  let v ← c.gateway.value operation args kwargs
  Action.ofExcept (Expected.document operation v)

/-! ## Inserting -/

/-- Inserts a document and returns its identifier. -/
def insertOne (c : Collection) (document : Document) : Action Value := do
  let result ← c.result "insert_one" [.document document] []
  return (result.lookup "inserted_id").getD .null

/-- The identifiers that an insertion reports. -/
def insertedIds (result : Document) : List Value :=
  match result.lookup "inserted_ids" with
  | some (.array ids) => ids
  | some (.document ids) => ids.map (·.2)
  | _ => []

/-- Inserts documents and returns their identifiers. -/
def insertMany (c : Collection) (documents : List Document) : Action (List Value) := do
  let result ← c.result "insert_many" [.documents documents] []
  return insertedIds result

/-! ## Searching -/

/-- The filter as an argument, if there is one. -/
def filterArgs (filter : Option Document) : List Value :=
  match filter with
  | some d => [.document d]
  | none => []

/-- A cursor over the documents that match. -/
def find (c : Collection) (filter : Option Document) (options : FindOptions) : Action Cursor := do
  let kwargs ← Action.ofExcept options.toKwargs
  c.gateway.cursor "find" (filterArgs filter) kwargs

/-- One document that matches, if there is one. -/
def findOne (c : Collection) (filter : Option Document) : Action (Option Document) := do
  let v ← c.gateway.value "find_one" (filterArgs filter) []
  Action.ofExcept (Expected.optionalDocument "find_one" v)

/-! ## Changing -/

/-- What an update reports. -/
def updateResult (operation : String) (result : Document) : Except Error UpdateResult := do
  let matched ← Expected.countField operation result "matched_count"
  let modified ← Expected.countField operation result "modified_count"
  let upserted := match result.lookup "upserted_id" with
    | some .null => none
    | other => other
  return ⟨matched, modified, upserted⟩

/-- Runs an update of the kind that `operation` names. -/
def update (c : Collection) (operation : String) (filter update : Document)
    (options : UpdateOptions) : Action UpdateResult := do
  let result ← c.result operation [.document filter, .document update] options.toKwargs
  Action.ofExcept (updateResult operation result)

/-- Updates one document. -/
def updateOne (c : Collection) (filter update : Document) (options : UpdateOptions) :
    Action UpdateResult :=
  c.update "update_one" filter update options

/-- Updates every document that matches. -/
def updateMany (c : Collection) (filter update : Document) (options : UpdateOptions) :
    Action UpdateResult :=
  c.update "update_many" filter update options

/-- Replaces one document. -/
def replaceOne (c : Collection) (filter replacement : Document) : Action UpdateResult :=
  c.update "replace_one" filter replacement .none

/-- Runs a deletion of the kind that `operation` names, and returns how many documents it
deleted. -/
def delete (c : Collection) (operation : String) (filter : Document) : Action Nat := do
  let result ← c.result operation [.document filter] []
  Action.ofExcept (Expected.countField operation result "deleted_count")

/-- Deletes one document. -/
def deleteOne (c : Collection) (filter : Document) : Action Nat := c.delete "delete_one" filter

/-- Deletes every document that matches. -/
def deleteMany (c : Collection) (filter : Document) : Action Nat := c.delete "delete_many" filter

/-! ## Counting and summing up -/

/-- How many documents match. -/
def countDocuments (c : Collection) (filter : Option Document) : Action Nat := do
  let v ← c.gateway.value "count_documents" [.document (filter.getD [])] []
  Action.ofExcept (Expected.count "count_documents" v)

/-- How many documents there are, as far as the remote side knows without counting. -/
def estimatedDocumentCount (c : Collection) : Action Nat := do
  let v ← c.gateway.value "estimated_document_count" [] []
  Action.ofExcept (Expected.count "estimated_document_count" v)

/-- The different values of a field. -/
def distinct (c : Collection) (key : String) (filter : Option Document) : Action (List Value) := do
  let v ← c.gateway.value "distinct" (.string key :: filterArgs filter) []
  Action.ofExcept (Expected.items "distinct" v)

/-- A cursor over the results of a pipeline. -/
def aggregate (c : Collection) (pipeline : List Document) : Action Cursor :=
  c.gateway.cursor "aggregate" [.documents pipeline] []

/-- Watches the collection for changes. -/
def watch (c : Collection) (pipeline : Option (List Document)) : Action ChangeStream :=
  c.gateway.watch pipeline

/-! ## Indexes -/

/-- Makes an index and returns its name. -/
def createIndex (c : Collection) (keys : Document) : Action String := do
  let v ← c.gateway.value "create_index" [.document keys] []
  Action.ofExcept (Expected.indexName "create_index" v)

/-- Drops an index. -/
def dropIndex (c : Collection) (name : String) : Action Unit := do
  let _ ← c.gateway.value "drop_index" [.string name] []

/-- A cursor over the indexes. -/
def listIndexes (c : Collection) : Action Cursor := c.gateway.cursor "list_indexes" [] []

/-- Drops the collection. -/
def drop (c : Collection) : Action Unit := do
  let _ ← c.gateway.value "drop" [] []

end Collection

end RemoteDriver
