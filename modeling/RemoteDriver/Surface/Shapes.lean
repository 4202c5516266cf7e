import RemoteDriver.Surface.Basic

/-!
# The reference types

The operations of the five reference types with their signatures and their documentation, as the
reference documentation lists them.
-/

namespace RemoteDriver.Shape

/-- A documented method. -/
def method (name signature doc : String) : OperationSpec :=
  ⟨name, .method, signature, " " ++ doc ++ "\n"⟩

/-- A documented property. -/
def property (name doc : String) : OperationSpec := ⟨name, .property, "", " " ++ doc ++ "\n"⟩

/-- A method without documentation. -/
def undocumented (name signature : String) : OperationSpec := ⟨name, .method, signature, ""⟩

/-- The client. -/
def client : Shape where
  typeName := "MongoClient"
  operations := [
    property "address" "(host, port) of the current standalone, primary, or mongos.",
    property "arbiters" "Arbiters in the replica set.",
    method "close" "" "Cleanup client resources and disconnect from MongoDB.",
    property "codec_options" "Read only access to the CodecOptions of this instance.",
    method "drop_database" "name_or_database, session=None, comment=None" "Drop a database.",
    method "get_database"
      ("name=None, codec_options=None, read_preference=None, write_concern=None, "
        ++ "read_concern=None")
      "Get a Database with the given name and options.",
    method "get_default_database"
      ("default=None, codec_options=None, read_preference=None, write_concern=None, "
        ++ "read_concern=None")
      "Get the database named in the MongoDB connection URI.",
    property "is_mongos" "If this client is connected to mongos.",
    property "is_primary" "If this client is connected to a server that can accept writes.",
    method "list_database_names" "session=None, comment=None"
      "Get a list of the names of all databases on the connected server.",
    method "list_databases" "session=None, comment=None, **kwargs"
      "Get a cursor over the databases of the connected server.",
    property "nodes" "Set of all currently connected servers.",
    property "options" "The configuration options for this client.",
    property "primary" "The (host, port) of the current primary of the replica set.",
    property "read_concern" "Read only access to the read concern of this instance.",
    property "read_preference" "Read only access to the read preference of this instance.",
    property "secondaries" "The secondary members known to this client.",
    method "server_info" "session=None"
      "Get information about the MongoDB server we're connected to.",
    method "start_session"
      "causal_consistency=None, default_transaction_options=None, snapshot=False"
      "Start a logical session.",
    property "topology_description" "The description of the connected MongoDB deployment.",
    method "watch"
      ("pipeline=None, full_document=None, resume_after=None, max_await_time_ms=None, "
        ++ "batch_size=None, collation=None, start_at_operation_time=None, session=None, "
        ++ "start_after=None, comment=None, full_document_before_change=None, "
        ++ "show_expanded_events=None")
      "Watch changes on this cluster.",
    property "write_concern" "Read only access to the write concern of this instance.",
    undocumented "_get_topology" "",
    undocumented "_server_property" "attr_name"]

/-- A database. -/
def database : Shape where
  typeName := "Database"
  operations := [
    method "aggregate" "pipeline, session=None, **kwargs"
      "Perform a database-level aggregation.",
    property "client" "The client instance for this Database.",
    property "codec_options" "Read only access to the CodecOptions of this instance.",
    method "command"
      ("command, value=1, check=True, allowable_errors=None, read_preference=None, "
        ++ "codec_options=None, session=None, comment=None, **kwargs")
      "Issue a MongoDB command.",
    method "create_collection"
      ("name, codec_options=None, read_preference=None, write_concern=None, "
        ++ "read_concern=None, session=None, check_exists=True, **kwargs")
      "Create a new Collection in this database.",
    method "dereference" "dbref, session=None, comment=None, **kwargs"
      "Dereference a DBRef, getting the document it points to.",
    method "drop_collection"
      "name_or_collection, session=None, comment=None, encrypted_fields=None"
      "Drop a collection.",
    method "get_collection"
      ("name, codec_options=None, read_preference=None, write_concern=None, "
        ++ "read_concern=None")
      "Get a Collection with the given name and options.",
    method "list_collection_names" "session=None, filter=None, comment=None, **kwargs"
      "Get a list of all the collection names in this database.",
    method "list_collections" "session=None, filter=None, comment=None, **kwargs"
      "Get a cursor over the collections of this database.",
    property "name" "The name of this Database.",
    property "read_concern" "Read only access to the read concern of this instance.",
    property "read_preference" "Read only access to the read preference of this instance.",
    method "validate_collection" ("name_or_collection, scandata=False, full=False, session=None, "
        ++ "background=None, comment=None")
      "Validate a collection.",
    method "watch"
      ("pipeline=None, full_document=None, resume_after=None, max_await_time_ms=None, "
        ++ "batch_size=None, collation=None, start_at_operation_time=None, session=None, "
        ++ "start_after=None, comment=None, full_document_before_change=None, "
        ++ "show_expanded_events=None")
      "Watch changes on this database.",
    method "with_options"
      "codec_options=None, read_preference=None, write_concern=None, read_concern=None"
      "Get a clone of this database changing the specified settings.",
    property "write_concern" "Read only access to the write concern of this instance.",
    undocumented "_command"
      ("conn, command, value=1, check=True, allowable_errors=None, "
        ++ "read_preference=None, codec_options=None, write_concern=None, "
        ++ "parse_write_concern_error=False, session=None, **kwargs")]

/-- A collection. -/
def collection : Shape where
  typeName := "Collection"
  operations := [
    method "aggregate" "pipeline, session=None, let=None, comment=None, **kwargs"
      "Perform an aggregation using the aggregation framework on this collection.",
    method "bulk_write"
      ("requests, ordered=True, bypass_document_validation=False, session=None, "
        ++ "comment=None, let=None")
      "Send a batch of write operations to the server.",
    method "count_documents" "filter, session=None, comment=None, **kwargs"
      "Count the number of documents in this collection.",
    method "create_index" "keys, session=None, comment=None, **kwargs"
      "Creates an index on this collection.",
    method "create_indexes" "indexes, session=None, comment=None, **kwargs"
      "Create one or more indexes on this collection.",
    property "database" "The Database that this Collection is a part of.",
    method "delete_many" "filter, collation=None, hint=None, session=None, let=None, comment=None"
      "Delete one or more documents matching the filter.",
    method "delete_one" "filter, collation=None, hint=None, session=None, let=None, comment=None"
      "Delete a single document matching the filter.",
    method "distinct" "key, filter=None, session=None, comment=None, **kwargs"
      "Get a list of distinct values for key among all documents in this collection.",
    method "drop" "session=None, comment=None, encrypted_fields=None"
      "Alias for drop_collection.",
    method "drop_index" "index_or_name, session=None, comment=None, **kwargs"
      "Drops the specified index on this collection.",
    method "drop_indexes" "session=None, comment=None, **kwargs"
      "Drops all indexes on this collection.",
    method "estimated_document_count" "comment=None, **kwargs"
      ("Get an estimate of the number of documents in this collection using "
        ++ "collection metadata."),
    method "find" "*args, **kwargs" "Query the database.",
    method "find_one" "filter=None, *args, **kwargs" "Get a single document from the database.",
    method "find_one_and_delete"
      ("filter, projection=None, sort=None, hint=None, session=None, let=None, "
        ++ "comment=None, **kwargs")
      "Finds a single document and deletes it, returning the document.",
    method "find_one_and_replace"
      ("filter, replacement, projection=None, sort=None, upsert=False, "
        ++ "return_document=False, hint=None, session=None, let=None, comment=None, "
        ++ "**kwargs")
      ("Finds a single document and replaces it, returning either the original or the "
        ++ "replaced document."),
    method "find_one_and_update" ("filter, update, projection=None, sort=None, upsert=False, "
        ++ "return_document=False, array_filters=None, hint=None, session=None, let=None, "
        ++ "comment=None, **kwargs")
      ("Finds a single document and updates it, returning either the original or the "
        ++ "updated document."),
    property "full_name" "The full name of this Collection.",
    method "index_information" "session=None, comment=None"
      "Get information on this collection's indexes.",
    method "insert_many"
      ("documents, ordered=True, bypass_document_validation=False, session=None, "
        ++ "comment=None")
      "Insert an iterable of documents.",
    method "insert_one" "document, bypass_document_validation=False, session=None, comment=None"
      "Insert a single document.",
    method "list_indexes" "session=None, comment=None"
      "Get a cursor over the index documents for this collection.",
    property "name" "The name of this Collection.",
    method "options" "session=None, comment=None" "Get the options set on this collection.",
    method "rename" "new_name, session=None, comment=None, **kwargs" "Rename this collection.",
    method "replace_one" ("filter, replacement, upsert=False, bypass_document_validation=False, "
        ++ "collation=None, hint=None, session=None, let=None, comment=None")
      "Replace a single document matching the filter.",
    method "update_many" ("filter, update, upsert=False, array_filters=None, "
        ++ "bypass_document_validation=None, collation=None, hint=None, session=None, "
        ++ "let=None, comment=None")
      "Update one or more documents that match the filter.",
    method "update_one" ("filter, update, upsert=False, bypass_document_validation=False, "
        ++ "collation=None, array_filters=None, hint=None, session=None, let=None, "
        ++ "comment=None")
      "Update a single document matching the filter.",
    method "watch"
      ("pipeline=None, full_document=None, resume_after=None, max_await_time_ms=None, "
        ++ "batch_size=None, collation=None, start_at_operation_time=None, session=None, "
        ++ "start_after=None, comment=None, full_document_before_change=None, "
        ++ "show_expanded_events=None")
      "Watch changes on this collection.",
    method "with_options"
      "codec_options=None, read_preference=None, write_concern=None, read_concern=None"
      "Get a clone of this collection changing the specified settings."]

/-- A result set held by the remote side. -/
def cursor : Shape where
  typeName := "CommandCursor"
  operations := [
    property "address" "The (host, port) of the server used, or None.",
    property "alive" "Does this cursor have the potential to return more data?",
    method "batch_size" "batch_size" "Limits the number of documents returned in one batch.",
    method "close" "" "Explicitly close / kill this cursor.",
    property "cursor_id" "Returns the id of the cursor.",
    method "next" "" "Advance the cursor.",
    property "session" "The cursor's ClientSession, or None.",
    method "try_next" "" "Advance the cursor without blocking indefinitely."]

/-- A subscription to changes. -/
def changeStream : Shape where
  typeName := "ChangeStream"
  operations := [
    property "alive" "Does this cursor have the potential to return more data?",
    method "close" "" "Close this ChangeStream.",
    method "next" "" "Advance the cursor.",
    property "resume_token"
      ("The cached resume token that will be used to resume after the most recently "
        ++ "returned change."),
    method "try_next" "" "Advance the cursor without blocking indefinitely."]

end RemoteDriver.Shape
