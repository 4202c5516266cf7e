import RemoteDriver.Proofs.Failure.Calls

/-!
# The calls of clients, databases and collections

Which call a command comes down to is told once, for all kinds of handles (`Gateway.call?`): the
typed operations have their names and arguments, calls by name go through as they are unless the
handle answers them, and whatever is refused before anything is sent comes down to no call at all.

Clients, databases and collections undertake just that (`Client.own_undertakes`,
`Database.own_undertakes`, `Collection.own_undertakes`).
-/

namespace RemoteDriver

open Bson (Document Value)
open RemoteDriver.Action

namespace Action

variable {α β : Type}

/-- What follows a result that can be told without the world. -/
theorem bind_ofExcept_ok (a : α) (f : α → Action β) : (do f (← ofExcept (.ok a))) = f a := rfl

/-- What follows a refusal does not count. -/
theorem bind_ofExcept_error (err : Error) (f : α → Action β) :
    (do f (← ofExcept (.error err))) = fail err := rfl

end Action

namespace Gateway

/-- The stages of a subscription as arguments, if there are any. -/
def stages (pipeline : Option (List Document)) : List Value :=
  match pipeline with
  | some stages => [Value.documents stages]
  | none => []

/-- The call that a command comes down to on a handle with this gateway; none if it is answered, or
refused, on the spot.  Cursors and change streams have other requests besides. -/
def call? (g : Gateway) : Command → Option Call
  | .forward call => some call
  | .forwardOutcome call _ => some call
  | .invoke call _ =>
    match g.resolve call.name call.args call.kwargs with
    | .ok .remote => some call
    | _ => none
  | .listDatabases filter => some ⟨"list_databases", [], Client.filterArgument filter⟩
  | .listDatabaseNames => some (.bare "list_database_names")
  | .dropDatabase name => if name = "" then none else some ⟨"drop_database", [.string name], []⟩
  | .serverInfo => some (.bare "server_info")
  | .watch pipeline => some ⟨"watch", stages pipeline, []⟩
  | .listCollections filter => some ⟨"list_collections", [], Client.filterArgument filter⟩
  | .listCollectionNames filter => some ⟨"list_collection_names", [], Client.filterArgument filter⟩
  | .command command => some ⟨"command", [.document command], []⟩
  | .createCollection name =>
    if name = "" then none else some ⟨"create_collection", [.string name], []⟩
  | .aggregate pipeline => some ⟨"aggregate", [.documents pipeline], []⟩
  | .dropCollection name =>
    if name = "" then none else some ⟨"drop_collection", [.string name], []⟩
  | .insertOne document => some ⟨"insert_one", [.document document], []⟩
  | .insertMany documents => some ⟨"insert_many", [.documents documents], []⟩
  | .find filter options =>
    match (FindOptions.ofList options).toKwargs with
    | .ok kwargs => some ⟨"find", Collection.filterArgs filter, kwargs⟩
    | .error _ => none
  | .findOne filter => some ⟨"find_one", Collection.filterArgs filter, []⟩
  | .updateOne filter update options =>
    some ⟨"update_one", [.document filter, .document update],
      (UpdateOptions.ofList options).toKwargs⟩
  | .updateMany filter update options =>
    some ⟨"update_many", [.document filter, .document update],
      (UpdateOptions.ofList options).toKwargs⟩
  | .replaceOne filter replacement =>
    some ⟨"replace_one", [.document filter, .document replacement],
      UpdateOptions.none.toKwargs⟩
  | .deleteOne filter => some ⟨"delete_one", [.document filter], []⟩
  | .deleteMany filter => some ⟨"delete_many", [.document filter], []⟩
  | .countDocuments filter => some ⟨"count_documents", [.document (filter.getD [])], []⟩
  | .estimatedDocumentCount => some (.bare "estimated_document_count")
  | .distinct key filter => some ⟨"distinct", .string key :: Collection.filterArgs filter, []⟩
  | .createIndex keys => some ⟨"create_index", [.document keys], []⟩
  | .dropIndex name => some ⟨"drop_index", [.string name], []⟩
  | .listIndexes => some (.bare "list_indexes")
  | .drop => some (.bare "drop")
  | _ => none

variable (g : Gateway)

/-- A call by name that is never left to the remote side comes down to no call. -/
theorem call?_invoke {call : Call} (never : g.resolve call.name call.args call.kwargs ≠ .ok .remote)
    (into : Option Outcome.Kind) : g.call? (.invoke call into) = none := by
  unfold call?
  dsimp only
  split
  · next remote => exact absurd remote never
  · rfl

/-- Watching comes down to a call with the stages that are given. -/
theorem watch_undertakes (pipeline : Option (List Document)) :
    Undertakes g (g.watch pipeline) (some ⟨"watch", stages pipeline, []⟩) :=
  g.stream_undertakes "watch" (stages pipeline) []

/-- A call by name is forwarded, unless it is misuse or the handle answers it. -/
theorem invoke_undertakes (call : Call) {answer : Action Outcome} (into : Option Outcome.Kind)
    (quiet : Quiet Error.IsMisuse answer) :
    Undertakes g (g.invoke call.name call.args call.kwargs answer)
      (g.call? (.invoke call into)) := by
  unfold call? invoke
  dsimp only
  rcases resolved : g.resolve call.name call.args call.kwargs with err | _ | _
  · obtain ⟨message, rfl⟩ := resolve_error resolved
    exact .answers (quiet_fail rfl)
  · exact g.forwardOutcome_undertakes call
  · exact .answers quiet

/-- What all handles with operations know. -/
theorem common_undertakes {command : Command} {t : Action Result}
    (known : Handle.common? g command = some t) : Undertakes g t (g.call? command) := by
  cases command <;> cases known
  case route => exact .answers (quiet_pure _)
  case surface => exact .answers (quiet_pure _)
  case forward call => exact (g.forward_undertakes call).return _
  case forwardOutcome call into => exact (g.forwardOutcome_undertakes call).return _

end Gateway

/-- A client that cannot be made is misuse. -/
theorem Setup.isMisuse_of_client {setup : Setup} {serial : Nat} {err : Error}
    (h : setup.client serial = .error err) : err.IsMisuse := by
  have endpoint {err : Error} (h : Endpoint.urlOfText setup.uri = .error err) : err.IsMisuse := by
    unfold Endpoint.urlOfText at h
    split at h <;> cases h
    rfl
  have made {options : Options}
      (h : Client.ofOptions serial setup.uri setup.accessKey options = .error err) :
      err.IsMisuse := by
    unfold Client.ofOptions at h
    split at h
    · next read =>
      cases h
      exact endpoint read
    · cases h
  unfold Setup.client at h
  split at h
  · exact made h
  · split at h
    · exact made h
    · next read =>
      cases h
      unfold Options.ofText at read
      split at read
      · cases read
      · next fault =>
        cases read
        exact endpoint fault

/-! ## Clients -/

namespace Client

variable (c : Client)

/-- Dropping a database comes down to a call unless its name is empty. -/
theorem dropDatabase_undertakes (name : String) :
    Undertakes c.gateway (c.dropDatabase name)
      (if name = "" then none else some ⟨"drop_database", [.string name], []⟩) := by
  unfold dropDatabase
  by_cases empty : name = ""
  · rw [if_pos empty, if_pos empty]
    exact .answers (quiet_fail rfl)
  · rw [if_neg empty, if_neg empty]
    exact (c.gateway.forward_undertakes ⟨"drop_database", [.string name], []⟩).return _

/-- Whatever is asked of a client. -/
theorem own_undertakes {command : Command} {t : Action Result} (known : c.own? command = some t) :
    Undertakes c.gateway t (c.gateway.call? command) := by
  cases command <;> simp only [own?, Option.some.injEq, reduceCtorEq] at known <;> subst known
  case invoke call into =>
    exact (c.gateway.invoke_undertakes call into (c.answer_quiet _ _ _)).return _
  case getDatabase name => exact (Undertakes.answers (c.getDatabase_quiet name)).return _
  case get name => exact (Undertakes.answers (c.getDatabase_quiet name)).return _
  case member name => exact (Undertakes.answers (c.attr_quiet name)).return _
  case defaultDatabase => exact (Undertakes.answers (c.defaultDatabase_quiet none)).return _
  case listDatabases filter => exact (c.gateway.cursor_undertakes _ _ _).return _
  case listDatabaseNames =>
    exact (c.gateway.read_undertakes _ _ _ fun _ _ => Expected.isMisread_of_names).return _
  case dropDatabase name => exact (c.dropDatabase_undertakes name).return _
  case serverInfo =>
    exact (c.gateway.read_undertakes _ _ _ fun _ _ => Expected.isMisread_of_document).return _
  case watch pipeline => exact (c.gateway.watch_undertakes pipeline).return _
  case startSession => exact .answers (quiet_fail rfl)
  case topology => exact .answers (quiet_pure _)
  case close => exact .answers (quiet_bind c.close_quiet fun _ => quiet_pure _)
  case isClosed => exact .answers (quiet_bind (quiet_look _) fun _ => quiet_pure _)
  case settings => exact .answers (quiet_pure _)
  case clone => exact .answers (quiet_pure _)
  case newClient setup =>
    refine .answers (quiet_bind quiet_fresh fun serial => ?_)
    exact quiet_bind (quiet_ofExcept fun _ => Setup.isMisuse_of_client) fun _ => quiet_pure _

end Client

/-! ## Databases -/

namespace Database

variable (d : Database)

/-- Creating a collection comes down to a call unless its name is empty. -/
theorem createCollection_undertakes (name : String) :
    Undertakes d.gateway (d.createCollection name)
      (if name = "" then none else some ⟨"create_collection", [.string name], []⟩) := by
  unfold createCollection getCollection
  by_cases empty : name = ""
  · rw [if_pos empty, if_pos empty, bind_ofExcept_error]
    exact .answers (quiet_fail rfl)
  · rw [if_neg empty, if_neg empty, bind_ofExcept_ok]
    exact (d.gateway.forward_undertakes ⟨"create_collection", [.string name], []⟩).return _

/-- Dropping a collection comes down to a call unless its name is empty. -/
theorem dropCollection_undertakes (name : String) :
    Undertakes d.gateway (d.dropCollection name)
      (if name = "" then none else some ⟨"drop_collection", [.string name], []⟩) := by
  unfold dropCollection
  by_cases empty : name = ""
  · rw [if_pos empty, if_pos empty]
    exact .answers (quiet_fail rfl)
  · rw [if_neg empty, if_neg empty]
    exact (d.gateway.forward_undertakes ⟨"drop_collection", [.string name], []⟩).return _

/-- Whatever is asked of a database. -/
theorem own_undertakes {command : Command} {t : Action Result} (known : d.own? command = some t) :
    Undertakes d.gateway t (d.gateway.call? command) := by
  cases command <;> simp only [own?, Option.some.injEq, reduceCtorEq] at known <;> subst known
  case invoke call into =>
    exact (d.gateway.invoke_undertakes call into (d.answer_quiet _ _ _)).return _
  case name => exact .answers (quiet_pure _)
  case describe => exact .answers (quiet_pure _)
  case client => exact (Undertakes.answers d.client_quiet).return _
  case getCollection name => exact (Undertakes.answers (d.getCollection_quiet name)).return _
  case member name => exact (Undertakes.answers (d.attr_quiet name)).return _
  case listCollections filter => exact (d.gateway.cursor_undertakes _ _ _).return _
  case listCollectionNames filter =>
    exact (d.gateway.read_undertakes _ _ _ fun _ _ => Expected.isMisread_of_names).return _
  case command command =>
    exact (d.gateway.read_undertakes _ _ _ fun _ _ => Expected.isMisread_of_document).return _
  case createCollection name => exact (d.createCollection_undertakes name).return _
  case aggregate pipeline => exact (d.gateway.cursor_undertakes _ _ _).return _
  case watch pipeline => exact (d.gateway.watch_undertakes pipeline).return _
  case dropCollection name => exact (d.dropCollection_undertakes name).return _

end Database

/-! ## Collections -/

namespace Collection

variable (c : Collection)

/-- An operation whose result is read comes down to its call. -/
theorem result_undertakes (operation : String) (args : List Value) (kwargs : Document) :
    Undertakes c.gateway (c.result operation args kwargs) (some ⟨operation, args, kwargs⟩) :=
  c.gateway.read_undertakes _ _ _ fun _ _ => Expected.isMisread_of_document

/-- Options that cannot be sent are misuse. -/
theorem isMisuse_of_toKwargs {options : FindOptions} {err : Error}
    (h : options.toKwargs = .error err) : err.IsMisuse := by
  simp only [FindOptions.toKwargs] at h
  split at h
  · split at h <;> cases h
    rfl
  · rw [if_neg Bool.false_ne_true] at h
    cases h

/-- A search comes down to its call unless too many documents are to be skipped. -/
theorem find_undertakes (filter : Option Document) (options : List FindOption) :
    Undertakes c.gateway (c.find filter (.ofList options))
      (c.gateway.call? (.find filter options)) := by
  unfold find Gateway.call?
  dsimp only
  rcases given : (FindOptions.ofList options).toKwargs with err | kwargs
  · rw [bind_ofExcept_error]
    exact .answers (quiet_fail (isMisuse_of_toKwargs given))
  · rw [bind_ofExcept_ok]
    exact c.gateway.cursor_undertakes "find" (filterArgs filter) kwargs

/-- An update comes down to a call with both documents and the options. -/
theorem update_undertakes (operation : String) (filter update : Document)
    (options : UpdateOptions) :
    Undertakes c.gateway (c.update operation filter update options)
      (some ⟨operation, [.document filter, .document update], options.toKwargs⟩) :=
  (c.result_undertakes operation _ _).read
    fun _ => quiet_ofExcept fun _ => isMisread_of_updateResult

/-- A deletion comes down to a call with its filter. -/
theorem delete_undertakes (operation : String) (filter : Document) :
    Undertakes c.gateway (c.delete operation filter)
      (some ⟨operation, [.document filter], []⟩) :=
  (c.result_undertakes operation _ _).read
    fun _ => quiet_ofExcept fun _ => Expected.isMisread_of_countField

/-- Whatever is asked of a collection. -/
theorem own_undertakes {command : Command} {t : Action Result} (known : c.own? command = some t) :
    Undertakes c.gateway t (c.gateway.call? command) := by
  cases command <;> simp only [own?, Option.some.injEq, reduceCtorEq] at known <;> subst known
  case invoke call into =>
    exact (c.gateway.invoke_undertakes call into (c.answer_quiet _)).return _
  case name => exact .answers (quiet_pure _)
  case fullName => exact .answers (quiet_pure _)
  case describe => exact .answers (quiet_pure _)
  case database => exact .answers (quiet_pure _)
  case insertOne document => exact ((c.result_undertakes _ _ _).return _).return _
  case insertMany documents => exact ((c.result_undertakes _ _ _).return _).return _
  case find filter options => exact (c.find_undertakes filter options).return _
  case findOne filter =>
    exact (c.gateway.read_undertakes _ _ _
      fun _ _ => Expected.isMisread_of_optionalDocument).return _
  case updateOne filter update options => exact (c.update_undertakes _ _ _ _).return _
  case updateMany filter update options => exact (c.update_undertakes _ _ _ _).return _
  case replaceOne filter replacement => exact (c.update_undertakes _ _ _ _).return _
  case deleteOne filter => exact (c.delete_undertakes _ _).return _
  case deleteMany filter => exact (c.delete_undertakes _ _).return _
  case countDocuments filter =>
    exact (c.gateway.read_undertakes _ _ _ fun _ _ => Expected.isMisread_of_count).return _
  case estimatedDocumentCount =>
    exact (c.gateway.read_undertakes _ _ _ fun _ _ => Expected.isMisread_of_count).return _
  case distinct key filter =>
    exact (c.gateway.read_undertakes _ _ _ fun _ _ => Expected.isMisread_of_items).return _
  case aggregate pipeline => exact (c.gateway.cursor_undertakes _ _ _).return _
  case watch pipeline => exact (c.gateway.watch_undertakes pipeline).return _
  case createIndex keys =>
    exact (c.gateway.read_undertakes _ _ _ fun _ _ => Expected.isMisread_of_indexName).return _
  case dropIndex name => exact ((c.gateway.value_undertakes _ _ _).return _).return _
  case listIndexes => exact (c.gateway.cursor_undertakes _ _ _).return _
  case drop => exact ((c.gateway.value_undertakes _ _ _).return _).return _

end Collection

end RemoteDriver
