import RemoteDriver.Proofs.Failure.Handles

/-!
# Typed helpers and calls by name

A typed helper builds the arguments of a call by hand and names the operation; what the operation
takes stands in another place.  Here the two are held together: whatever a helper is given that it
does not refuse, the call that it builds fits the operation that is mirrored (`fits_of_row`), and so
the helper does in every state what the same call does by its name (`Agrees`).

The main statement, `helpers_agree_with_invoke`, says so of every helper of clients, databases and
collections.
-/

namespace RemoteDriver

open Bson (Document Value)
open World (Still)
open RemoteDriver.Action

/-! ## Helpers -/

/-- The commands that a typed helper serves by a call. -/
def Command.IsHelper : Command → Prop
  | .listDatabases _ | .listDatabaseNames | .dropDatabase _ | .serverInfo | .watch _
  | .listCollections _ | .listCollectionNames _ | .command _ | .createCollection _ | .aggregate _
  | .dropCollection _ | .insertOne _ | .insertMany _ | .find _ _ | .findOne _ | .updateOne _ _ _
  | .updateMany _ _ _ | .replaceOne _ _ | .deleteOne _ | .deleteMany _ | .countDocuments _
  | .estimatedDocumentCount | .distinct _ _ | .createIndex _ | .dropIndex _ | .listIndexes
  | .drop => True
  | _ => False

/-- A helper does not refuse what it is given: a name that has to be there is not empty, and the
number of documents to skip fits into 64 bits with a sign. -/
def Command.Acceptable : Command → Prop
  | .dropDatabase given | .createCollection given | .dropCollection given => given ≠ ""
  | .find _ options => ∀ n, (FindOptions.ofList options).skip = some n → n ≤ 9223372036854775807
  | _ => True

/-- The documents that a helper is given as a list. -/
def Command.documents? : Command → Option (List Document)
  | .insertMany documents => some documents
  | .aggregate pipeline => some pipeline
  | .watch pipeline => pipeline
  | .updateOne _ _ options => (UpdateOptions.ofList options).arrayFilters
  | .updateMany _ _ options => (UpdateOptions.ofList options).arrayFilters
  | _ => none

/-- The helpers that bring a cursor. -/
def Command.BringsCursor : Command → Prop
  | .listDatabases _ | .listCollections _ | .aggregate _ | .find _ _ | .listIndexes => True
  | _ => False

/-- The helpers that bring a change stream. -/
def Command.BringsStream : Command → Prop
  | .watch _ => True
  | _ => False

/-- A list of documents goes as one array, in the order in which the documents are given. -/
def Command.SendsInOrder (command : Command) (call : Call) : Prop :=
  ∀ ds, command.documents? = some ds →
    call.args = [.array (ds.map .document)]
      ∨ call.kwargs.lookup "array_filters" = some (.array (ds.map .document))

/-- A helper does in every state what the call that it comes down to does by its name. -/
structure Agrees (g : Gateway) (invoke : Call → Action Outcome) (command : Command)
    (helper : Action Result) (call : Call) : Prop where
  /-- On an open client the call is posted, with its values one by one. -/
  posts : ∀ limits w args kwargs, w.isClosed g.connection.client = false →
    call.EncodesAs g.connection.codec args kwargs →
      (helper limits w).2.posted
        = w.posted ++ [g.connection.request ⟨call.name, args, kwargs, g.route⟩]
  /-- The call by name posts the same, and leaves the remote side and the clock as the helper
  does. -/
  alike : ∀ limits w, Still (invoke call limits w).2 (helper limits w).2
  /-- The helper is misuse only where the call is refused for its client or for a value that has no
  form on the wire, and so is the call by name. -/
  misuse : ∀ limits w err, (helper limits w).1 = .error (.failed err) → err.kind = .usage →
    g.connection.Refuses call g.route w err
      ∧ helper limits w = (.error (.failed err), w)
      ∧ invoke call limits w = (.error (.failed err), w)
  /-- A cursor that the helper brings is the one that the call by name brings. -/
  cursor : command.BringsCursor → ∀ limits w c w',
    helper limits w = (.ok (.handle (.cursor c)), w')
      ↔ invoke call limits w = (.ok (.cursor c), w')
  /-- So is a change stream. -/
  stream : command.BringsStream → ∀ limits w s w',
    helper limits w = (.ok (.handle (.changeStream s)), w')
      ↔ invoke call limits w = (.ok (.changeStream s), w')

/-! ## Calls that fit -/

namespace Signature

/-- The signature that some characters stand for. -/
def ofChars (text : List Char) : Except Fault Signature :=
  let s := Text.trim text
  if s = [] then .ok ⟨[]⟩
  else (Reading.start.steps (Text.pieces ',' s)).map fun r => ⟨r.params⟩

theorem ofText_eq_ofChars (text : String) : ofText text = ofChars text.toList := rfl

/-- A signature that collects all arguments binds whatever it is given. -/
theorem bind_of_collects (operation : String) (args : List Value) (kwargs : Document) :
    bind ⟨[⟨"args", .variadicPositional, none⟩, ⟨"kwargs", .variadicKeyword, none⟩]⟩ operation args
      kwargs = .ok () := by
  have named (names : List String) (count : Nat) : names.findSome? (nameFault?
      ⟨[⟨"args", .variadicPositional, none⟩, ⟨"kwargs", .variadicKeyword, none⟩]⟩ count)
      = none := by
    rw [List.findSome?_eq_none_iff]
    intro name _
    simp [nameFault?, Kind.isNamed, has]
  unfold bind bindFault?
  rw [named]
  simp [has, missing?, Param.isRequired, Kind.isNamed]

end Signature

namespace Shape

/-- How an operation is called: with so many arguments by position, and with arguments of these
names. -/
abbrev Form := Nat × List String

/-- The form of a call. -/
def formOf (call : Call) : Form := (call.args.length, call.kwargs.map (·.1))

/-- The operations of a shape with the characters of their parameter lists. -/
def spelled (shape : Shape) : List (String × List Char) :=
  shape.operations.map fun spec => (spec.name, spec.signature.toList)

/-- Whether there is a public operation of a name that takes calls of some forms. -/
def takes (spelled : List (String × List Char)) (row : String × List Form) : Bool :=
  !isPrivate row.1 && spelled.any fun entry =>
    entry.1 = row.1 && match Signature.ofChars entry.2 with
      | .ok signature => row.2.all fun form => (signature.bindFault? form.1 form.2).isNone
      | .error _ => false

/-- A call fits an operation that takes calls of its form: nothing else matters. -/
theorem fits_of_row {shape : Shape} {rows : List (String × List Form)} {call : Call}
    (taken : rows.all (takes shape.spelled) = true) (row : String × List Form) (listed : row ∈ rows)
    (named : call.name = row.1) (form : formOf call ∈ row.2) : shape.Fits call := by
  have h := List.all_eq_true.mp taken row listed
  unfold takes at h
  rw [Bool.and_eq_true, Bool.not_eq_true', List.any_eq_true] at h
  obtain ⟨visible, entry, member, h⟩ := h
  obtain ⟨spec, listed, rfl⟩ := List.mem_map.mp member
  rw [Bool.and_eq_true, decide_eq_true_eq] at h
  obtain ⟨same, binds⟩ := h
  dsimp only at same binds
  rw [← named] at same visible
  rw [← Signature.ofText_eq_ofChars] at binds
  split at binds
  · next signature reads =>
    refine ⟨signature, ⟨spec, listed, same, visible, reads⟩, ?_⟩
    have none := Option.isNone_iff_eq_none.mp (List.all_eq_true.mp binds _ form)
    unfold formOf at none
    unfold Signature.bind
    rw [none]
  · cases binds

/-- The same of a handle that answers none of these operations itself. -/
theorem served_of_row {shape : Shape} {overrides : List String} {rows : List (String × List Form)}
    {call : Call} (taken : rows.all (takes shape.spelled) = true)
    (others : ∀ row ∈ rows, row.1 ∉ overrides) (row : String × List Form) (listed : row ∈ rows)
    (named : call.name = row.1) (form : formOf call ∈ row.2) :
    shape.Fits call ∧ call.name ∉ overrides :=
  ⟨fits_of_row taken row listed named form, named ▸ others row listed⟩

/-- How the helpers of clients call operations. -/
def clientForms : List (String × List Form) :=
  [("list_databases", [(0, []), (0, ["filter"])]), ("list_database_names", [(0, [])]),
    ("drop_database", [(1, [])]), ("server_info", [(0, [])]), ("watch", [(0, []), (1, [])])]

/-- How the helpers of databases call operations. -/
def databaseForms : List (String × List Form) :=
  [("list_collections", [(0, []), (0, ["filter"])]),
    ("list_collection_names", [(0, []), (0, ["filter"])]), ("command", [(1, [])]),
    ("create_collection", [(1, [])]), ("aggregate", [(1, [])]), ("drop_collection", [(1, [])]),
    ("watch", [(0, []), (1, [])])]

/-- The forms of an update with its options. -/
def updateForms : List Form :=
  [(2, []), (2, ["upsert"]), (2, ["array_filters"]), (2, ["upsert", "array_filters"])]

/-- How the helpers of collections call operations, but for `find`, which takes all forms. -/
def collectionForms : List (String × List Form) :=
  [("insert_one", [(1, [])]), ("insert_many", [(1, [])]), ("find_one", [(0, []), (1, [])]),
    ("update_one", updateForms), ("update_many", updateForms), ("replace_one", [(2, [])]),
    ("delete_one", [(1, [])]), ("delete_many", [(1, [])]), ("count_documents", [(1, [])]),
    ("estimated_document_count", [(0, [])]), ("distinct", [(1, []), (2, [])]),
    ("aggregate", [(1, [])]), ("watch", [(0, []), (1, [])]), ("create_index", [(1, [])]),
    ("drop_index", [(1, [])]), ("list_indexes", [(0, [])]), ("drop", [(0, [])])]

-- In each table the texts are taken apart into characters first: the kernel is slow at it.

/-- The calls of client helpers fit the operations of clients. -/
theorem client_takes : clientForms.all (takes client.spelled) = true := by
  unfold spelled client
  simp only [method, property, undocumented, List.map_cons, List.map_nil, String.toList_append]
  repeat rw [String.toList_ofList]
  decide +kernel

/-- The calls of database helpers fit the operations of databases. -/
theorem database_takes : databaseForms.all (takes database.spelled) = true := by
  unfold spelled database
  simp only [method, property, undocumented, List.map_cons, List.map_nil, String.toList_append]
  repeat rw [String.toList_ofList]
  decide +kernel

/-- The calls of collection helpers fit the operations of collections. -/
theorem collection_takes : collectionForms.all (takes collection.spelled) = true := by
  unfold spelled collection
  simp only [method, property, List.map_cons, List.map_nil, String.toList_append]
  repeat rw [String.toList_ofList]
  decide +kernel

/-- A search takes whatever it is given. -/
theorem fits_find (args : List Value) (kwargs : Document) :
    collection.Fits ⟨"find", args, kwargs⟩ := by
  have reads : Signature.ofText "*args, **kwargs"
      = .ok ⟨[⟨"args", .variadicPositional, none⟩, ⟨"kwargs", .variadicKeyword, none⟩]⟩ := by
    decide +kernel
  have visible : isPrivate "find" = false := by decide +kernel
  refine ⟨_, ⟨method "find" "*args, **kwargs" "Query the database.", ?_, rfl, visible, reads⟩,
    Signature.bind_of_collects "find" args kwargs⟩
  simp [collection]

end Shape

/-! ## What helpers undertake -/

/-- What a helper prepares: a call that fits and that the handle does not answer itself.  If it
brings a cursor or a change stream, then by forwarding the call. -/
structure Prepares (shape : Shape) (overrides : List String) (g : Gateway) (command : Command)
    (helper : Action Result) (call : Call) : Prop where
  /-- This is the call that the command comes down to. -/
  made : g.call? command = some call
  /-- It fits an operation that is mirrored and that the handle does not answer itself. -/
  served : shape.Fits call ∧ call.name ∉ overrides
  /-- Lists of documents are kept in order. -/
  documents : command.SendsInOrder call
  /-- A cursor is brought by forwarding the call. -/
  cursor : command.BringsCursor → helper
    = (do return .handle (.cursor (← g.cursor call.name call.args call.kwargs)))
  /-- So is a change stream. -/
  stream : command.BringsStream → helper
    = (do return .handle (.changeStream (← g.stream call.name call.args call.kwargs)))

section agrees

variable {shape : Shape} {overrides : List String} {g : Gateway} {helper : Action Result}
  {call : Call} {command : Command} {limits : Limits} {w w' : World}

/-- A cursor is opened by the reply to a forwarded call, by a helper as well as by name. -/
theorem Gateway.cursor_iff (g : Gateway) (call : Call) (limits : Limits) (w w' : World)
    (c : Cursor) :
    (do return .handle (.cursor (← g.cursor call.name call.args call.kwargs)) : Action Result)
        limits w = (.ok (.handle (.cursor c)), w')
      ↔ g.forwardOutcome call.name call.args call.kwargs limits w = (.ok (.cursor c), w') := by
  unfold Gateway.cursor forwardOutcome
  rw [bind_eq_resumed, bind_eq_resumed, bind_eq_resumed]
  rcases g.forward call.name call.args call.kwargs limits w with ⟨h | reply, v⟩
  · constructor <;> rintro ⟨⟩
  · cases reply with
    | value _ | stream _ => constructor <;> rintro ⟨⟩
    | cursor seed => constructor <;> rintro ⟨rfl⟩ <;> rfl

/-- So is a change stream. -/
theorem Gateway.stream_iff (g : Gateway) (call : Call) (limits : Limits) (w w' : World)
    (s : ChangeStream) :
    (do return .handle (.changeStream (← g.stream call.name call.args call.kwargs)) : Action Result)
        limits w = (.ok (.handle (.changeStream s)), w')
      ↔ g.forwardOutcome call.name call.args call.kwargs limits w
        = (.ok (.changeStream s), w') := by
  unfold Gateway.stream forwardOutcome
  rw [bind_eq_resumed, bind_eq_resumed, bind_eq_resumed]
  rcases g.forward call.name call.args call.kwargs limits w with ⟨h | reply, v⟩
  · constructor <;> rintro ⟨⟩
  · cases reply with
    | value _ | cursor _ => constructor <;> rintro ⟨⟩
    | stream seed => constructor <;> rintro ⟨rfl⟩ <;> rfl

/-- What is undertaken by a call leaves the log, the remote side and the clock as the call does. -/
theorem Undertakes.still {α : Type} {t : Action α} (h : Undertakes g t (some call))
    (limits : Limits) (w : World) :
    Still (g.forward call.name call.args call.kwargs limits w).2 (t limits w).2 := by
  cases h with
  | forwards _ f same reads =>
    rw [same, bind_eq_resumed]
    rcases (g.forward call.name call.args call.kwargs limits w).1 with h | reply
    · exact .refl _
    · exact (reads reply).still limits _

/-- On an open client a call that fits is posted by what is undertaken by it. -/
theorem Undertakes.posts_of_fits {α : Type} {t : Action α} (h : Undertakes g t (some call))
    (serves : shape.Serves overrides g) (fits : shape.Fits call)
    (isOpen : w.isClosed g.connection.client = false) {args : List Json}
    {kwargs : List (String × Json)} (encodes : call.EncodesAs g.connection.codec args kwargs) :
    (t limits w).2.posted
      = w.posted ++ [g.connection.request ⟨call.name, args, kwargs, g.route⟩] := by
  rw [(h.still limits w).posted, Gateway.forward_of_fits serves fits]
  exact g.connection.posted_dispatch_of_encodes g.sender g.route limits isOpen encodes

/-- What is undertaken by a call fails by misuse only where the call does. -/
theorem Undertakes.misuse (h : Undertakes g helper (some call)) {err : Error}
    (failed : (helper limits w).1 = .error (.failed err)) (misuse : err.kind = .usage) :
    (g.forward call.name call.args call.kwargs limits w).1 = .error (.failed err)
      ∧ (helper limits w).2 = (g.forward call.name call.args call.kwargs limits w).2 := by
  cases h with
  | forwards _ f same reads =>
    rw [same, bind_eq_resumed] at failed ⊢
    rcases forwarded : (g.forward call.name call.args call.kwargs limits w).1 with h | reply
    · rw [forwarded] at failed
      cases failed
      exact ⟨rfl, rfl⟩
    · rw [forwarded] at failed
      obtain ⟨err', same', reason, misread⟩ := (reads reply).failing limits _ _ failed
      cases same'
      rw [misread] at misuse
      cases misuse

/-- A dispatch that is misuse has been refused, and nothing has happened. -/
theorem Connection.refuses_of_usage {c : Connection} {sender : Sender} {route : Route} {err : Error}
    (failed : (c.dispatch sender call route limits w).1 = .error (.failed err))
    (misuse : err.kind = .usage) : c.Refuses call route w err
      ∧ c.dispatch sender call route limits w = (.error (.failed err), w) := by
  rcases c.dispatch_refused_or_sent sender call route limits w
    with ⟨err', refuses, hd⟩ | ⟨e, w', _, _, hd⟩
  · rw [hd] at failed
    cases failed
    exact ⟨refuses, hd⟩
  · rw [hd] at failed
    rcases e.result_cases c.codec .abandoned
      with ⟨reply, _, result⟩ | ⟨err', came, result⟩ | ⟨_, result⟩
    · cases result.symm.trans failed
    · cases result.symm.trans failed
      exact absurd misuse (Exchange.blames_of_failure came).not_isMisuse
    · cases result.symm.trans failed

/-- A helper that prepares a call and undertakes it agrees with the call by name. -/
theorem Prepares.agrees (prepares : Prepares shape overrides g command helper call)
    (serves : shape.Serves overrides g) (undertakes : Undertakes g helper (some call))
    (answer : Call → Action Outcome) :
    Agrees g (fun call => g.invoke call.name call.args call.kwargs (answer call)) command helper
      call := by
  have forwarded : g.forward call.name call.args call.kwargs
      = g.connection.dispatch g.sender call g.route :=
    Gateway.forward_of_fits serves prepares.served.1
  have invoked : g.invoke call.name call.args call.kwargs (answer call)
      = g.forwardOutcome call.name call.args call.kwargs := by
    unfold Gateway.invoke
    rw [Gateway.resolve_of_fits serves prepares.served.1 prepares.served.2]
  have named := g.forwardOutcome_undertakes call
  constructor
  · intro limits w args kwargs isOpen encodes
    exact undertakes.posts_of_fits serves prepares.served.1 isOpen encodes
  · intro limits w
    have helper := undertakes.still limits w
    have call := named.still limits w
    rw [← invoked] at call
    exact ⟨helper.posted.trans call.posted.symm, helper.remote.trans call.remote.symm,
      helper.now.trans call.now.symm⟩
  · intro limits w err failed misuse
    obtain ⟨fails, same⟩ := undertakes.misuse failed misuse
    rw [forwarded] at fails same
    obtain ⟨refuses, dispatched⟩ := Connection.refuses_of_usage fails misuse
    rw [dispatched] at same
    refine ⟨refuses, Prod.ext failed same, ?_⟩
    rw [invoked]
    unfold Gateway.forwardOutcome
    rw [bind_eq_resumed, forwarded, dispatched]
    rfl
  · intro brings limits w c w'
    rw [prepares.cursor brings, invoked]
    exact g.cursor_iff call limits w w' c
  · intro brings limits w s w'
    rw [prepares.stream brings, invoked]
    exact g.stream_iff call limits w w' s

end agrees

/-! ## The helpers of clients, databases and collections -/

/-- A call without lists of documents keeps them in order. -/
theorem Command.sendsInOrder_of_none {command : Command} (none : command.documents? = none)
    (call : Call) : command.SendsInOrder call := by
  intro ds given
  rw [none] at given
  cases given

/-- A pipeline is one array. -/
theorem Command.watch_sendsInOrder (pipeline : Option (List Document)) :
    (Command.watch pipeline).SendsInOrder ⟨"watch", Gateway.stages pipeline, []⟩ := by
  rintro ds ⟨rfl⟩
  exact .inl rfl

/-- A subscription takes a pipeline or none. -/
theorem Shape.formOf_watch (pipeline : Option (List Document)) :
    formOf ⟨"watch", Gateway.stages pipeline, []⟩ ∈ [(0, []), (1, [])] := by
  cases pipeline
  · exact .head _
  · exact .tail _ (.head _)

/-- A list takes a filter or none. -/
theorem Shape.formOf_filterArgument (name : String) (filter : Option Document) :
    formOf ⟨name, [], Client.filterArgument filter⟩ ∈ [(0, []), (0, ["filter"])] := by
  cases filter
  · exact .head _
  · exact .tail _ (.head _)

namespace Client

/-- A call of one of the forms that helpers of clients use. -/
theorem served {call : Call} (row : String × List Shape.Form) (listed : row ∈ Shape.clientForms)
    (named : call.name = row.1) (form : Shape.formOf call ∈ row.2) :
    Shape.client.Fits call ∧ call.name ∉ localOperations :=
  Shape.served_of_row Shape.client_takes (by decide) row listed named form

/-- Whatever helper of a client is given something that it does not refuse. -/
theorem prepares (c : Client) {command : Command} {t : Action Result}
    (known : c.own? command = some t) (helper : command.IsHelper)
    (acceptable : command.Acceptable) :
    ∃ call, Prepares .client localOperations c.gateway command t call := by
  cases command <;> simp only [own?, Option.some.injEq, reduceCtorEq] at known <;> subst known
  case listDatabases filter =>
    refine ⟨_, rfl, served ("list_databases", [(0, []), (0, ["filter"])]) (by decide) rfl ?_,
      Command.sendsInOrder_of_none rfl _, fun _ => rfl, False.elim⟩
    exact Shape.formOf_filterArgument _ filter
  case listDatabaseNames =>
    exact ⟨_, rfl, served ("list_database_names", [(0, [])]) (by decide) rfl (.head _),
      Command.sendsInOrder_of_none rfl _, False.elim, False.elim⟩
  case dropDatabase name =>
    exact ⟨_, if_neg acceptable, served ("drop_database", [(1, [])]) (by decide) rfl (.head _),
      Command.sendsInOrder_of_none rfl _, False.elim, False.elim⟩
  case serverInfo =>
    exact ⟨_, rfl, served ("server_info", [(0, [])]) (by decide) rfl (.head _),
      Command.sendsInOrder_of_none rfl _, False.elim, False.elim⟩
  case watch pipeline =>
    have form := Shape.formOf_watch pipeline
    exact ⟨_, rfl, served ("watch", [(0, []), (1, [])]) (by decide) rfl form,
      Command.watch_sendsInOrder pipeline, False.elim, fun _ => rfl⟩
  all_goals exact helper.elim

end Client

namespace Database

/-- A call of one of the forms that helpers of databases use. -/
theorem served {call : Call} (row : String × List Shape.Form) (listed : row ∈ Shape.databaseForms)
    (named : call.name = row.1) (form : Shape.formOf call ∈ row.2) :
    Shape.database.Fits call ∧ call.name ∉ localOperations :=
  Shape.served_of_row Shape.database_takes (by decide) row listed named form

/-- Whatever helper of a database is given something that it does not refuse. -/
theorem prepares (d : Database) {command : Command} {t : Action Result}
    (known : d.own? command = some t) (helper : command.IsHelper)
    (acceptable : command.Acceptable) :
    ∃ call, Prepares .database localOperations d.gateway command t call := by
  cases command <;> simp only [own?, Option.some.injEq, reduceCtorEq] at known <;> subst known
  case listCollections filter =>
    refine ⟨_, rfl, served ("list_collections", [(0, []), (0, ["filter"])]) (by decide) rfl ?_,
      Command.sendsInOrder_of_none rfl _, fun _ => rfl, False.elim⟩
    exact Shape.formOf_filterArgument _ filter
  case listCollectionNames filter =>
    refine ⟨_, rfl, served ("list_collection_names", [(0, []), (0, ["filter"])]) (by decide) rfl ?_,
      Command.sendsInOrder_of_none rfl _, False.elim, False.elim⟩
    exact Shape.formOf_filterArgument _ filter
  case command command =>
    exact ⟨_, rfl, served ("command", [(1, [])]) (by decide) rfl (.head _),
      Command.sendsInOrder_of_none rfl _, False.elim, False.elim⟩
  case createCollection name =>
    exact ⟨_, if_neg acceptable, served ("create_collection", [(1, [])]) (by decide) rfl (.head _),
      Command.sendsInOrder_of_none rfl _, False.elim, False.elim⟩
  case aggregate pipeline =>
    refine ⟨_, rfl, served ("aggregate", [(1, [])]) (by decide) rfl (.head _), ?_,
      fun _ => rfl, False.elim⟩
    rintro ds ⟨rfl⟩
    exact .inl rfl
  case watch pipeline =>
    have form := Shape.formOf_watch pipeline
    exact ⟨_, rfl, served ("watch", [(0, []), (1, [])]) (by decide) rfl form,
      Command.watch_sendsInOrder pipeline, False.elim, fun _ => rfl⟩
  case dropCollection name =>
    exact ⟨_, if_neg acceptable, served ("drop_collection", [(1, [])]) (by decide) rfl (.head _),
      Command.sendsInOrder_of_none rfl _, False.elim, False.elim⟩
  all_goals exact helper.elim

end Database

/-- The options of an update have one of four forms. -/
theorem Shape.formOf_update (operation : String) (filter update : Document)
    (options : UpdateOptions) :
    formOf ⟨operation, [.document filter, .document update], options.toKwargs⟩ ∈ updateForms := by
  obtain ⟨_ | upsert, _ | filters⟩ := options
  · exact .head _
  · exact .tail _ (.tail _ (.head _))
  · exact .tail _ (.head _)
  · exact .tail _ (.tail _ (.tail _ (.head _)))

/-- The filters of arrays are one array. -/
theorem UpdateOptions.lookup_toKwargs {options : UpdateOptions} {ds : List Document}
    (given : options.arrayFilters = some ds) :
    options.toKwargs.lookup "array_filters" = some (.array (ds.map .document)) := by
  obtain ⟨_ | upsert, filters⟩ := options <;> cases given <;> rfl

/-- The number of documents to skip is not refused as long as it fits. -/
theorem FindOptions.toKwargs_of_le {options : FindOptions}
    (fits : ∀ n, options.skip = some n → n ≤ 9223372036854775807) :
    ∃ kwargs, options.toKwargs = .ok kwargs := by
  unfold toKwargs
  rcases skipped : options.skip with _ | n
  · exact ⟨_, if_neg Bool.false_ne_true⟩
  · have le := fits n skipped
    have small : Number.fitsInt64 n = true := by
      unfold Number.fitsInt64 Number.minInt64 Number.maxInt64
      rw [Bool.and_eq_true, decide_eq_true_eq, decide_eq_true_eq]
      omega
    dsimp only
    rw [small]
    exact ⟨_, if_neg Bool.false_ne_true⟩

namespace Collection

/-- A filter may be left out. -/
theorem formOf_filterArgs (name : String) (filter : Option Document) :
    Shape.formOf ⟨name, filterArgs filter, []⟩ ∈ ([(0, []), (1, [])] : List Shape.Form) := by
  cases filter
  · exact .head _
  · exact .tail _ (.head _)

/-- The key of values may be followed by a filter. -/
theorem formOf_distinct (key : String) (filter : Option Document) :
    Shape.formOf ⟨"distinct", .string key :: filterArgs filter, []⟩
      ∈ ([(1, []), (2, [])] : List Shape.Form) := by
  cases filter
  · exact .head _
  · exact .tail _ (.head _)

/-- A call of one of the forms that helpers of collections use. -/
theorem served {call : Call} (row : String × List Shape.Form) (listed : row ∈ Shape.collectionForms)
    (named : call.name = row.1) (form : Shape.formOf call ∈ row.2) :
    Shape.collection.Fits call ∧ call.name ∉ localOperations :=
  Shape.served_of_row Shape.collection_takes (by decide) row listed named form

/-- Whatever helper of a collection is given something that it does not refuse. -/
theorem prepares (c : Collection) {command : Command} {t : Action Result}
    (known : c.own? command = some t) (helper : command.IsHelper)
    (acceptable : command.Acceptable) :
    ∃ call, Prepares .collection localOperations c.gateway command t call := by
  cases command <;> simp only [own?, Option.some.injEq, reduceCtorEq] at known <;> subst known
  case insertOne document =>
    exact ⟨_, rfl, served ("insert_one", [(1, [])]) (by decide) rfl (.head _),
      Command.sendsInOrder_of_none rfl _, False.elim, False.elim⟩
  case insertMany documents =>
    refine ⟨_, rfl, served ("insert_many", [(1, [])]) (by decide) rfl (.head _), ?_,
      False.elim, False.elim⟩
    rintro ds ⟨rfl⟩
    exact .inl rfl
  case find filter options =>
    obtain ⟨kwargs, given⟩ := FindOptions.toKwargs_of_le acceptable
    have remote : "find" ∉ localOperations := by decide
    refine ⟨⟨"find", filterArgs filter, kwargs⟩, ?_, ⟨Shape.fits_find _ _, remote⟩,
      Command.sendsInOrder_of_none rfl _, fun _ => ?_, False.elim⟩
    · unfold Gateway.call?
      dsimp only
      rw [given]
    · unfold Collection.find
      rw [given, bind_ofExcept_ok]
  case findOne filter =>
    exact ⟨_, rfl, served ("find_one", [(0, []), (1, [])]) (by decide) rfl
      (formOf_filterArgs "find_one" filter), Command.sendsInOrder_of_none rfl _,
      False.elim, False.elim⟩
  case updateOne filter update options =>
    refine ⟨_, rfl, served ("update_one", Shape.updateForms) (by decide) rfl
      (Shape.formOf_update _ _ _ _), ?_, False.elim, False.elim⟩
    exact fun ds given => .inr (UpdateOptions.lookup_toKwargs given)
  case updateMany filter update options =>
    refine ⟨_, rfl, served ("update_many", Shape.updateForms) (by decide) rfl
      (Shape.formOf_update _ _ _ _), ?_, False.elim, False.elim⟩
    exact fun ds given => .inr (UpdateOptions.lookup_toKwargs given)
  case replaceOne filter replacement =>
    exact ⟨_, rfl, served ("replace_one", [(2, [])]) (by decide) rfl (.head _),
      Command.sendsInOrder_of_none rfl _, False.elim, False.elim⟩
  case deleteOne filter =>
    exact ⟨_, rfl, served ("delete_one", [(1, [])]) (by decide) rfl (.head _),
      Command.sendsInOrder_of_none rfl _, False.elim, False.elim⟩
  case deleteMany filter =>
    exact ⟨_, rfl, served ("delete_many", [(1, [])]) (by decide) rfl (.head _),
      Command.sendsInOrder_of_none rfl _, False.elim, False.elim⟩
  case countDocuments filter =>
    exact ⟨_, rfl, served ("count_documents", [(1, [])]) (by decide) rfl (.head _),
      Command.sendsInOrder_of_none rfl _, False.elim, False.elim⟩
  case estimatedDocumentCount =>
    exact ⟨_, rfl, served ("estimated_document_count", [(0, [])]) (by decide) rfl (.head _),
      Command.sendsInOrder_of_none rfl _, False.elim, False.elim⟩
  case distinct key filter =>
    exact ⟨_, rfl, served ("distinct", [(1, []), (2, [])]) (by decide) rfl
      (formOf_distinct key filter), Command.sendsInOrder_of_none rfl _, False.elim,
      False.elim⟩
  case aggregate pipeline =>
    refine ⟨_, rfl, served ("aggregate", [(1, [])]) (by decide) rfl (.head _), ?_,
      fun _ => rfl, False.elim⟩
    rintro ds ⟨rfl⟩
    exact .inl rfl
  case watch pipeline =>
    have form := Shape.formOf_watch pipeline
    exact ⟨_, rfl, served ("watch", [(0, []), (1, [])]) (by decide) rfl form,
      Command.watch_sendsInOrder pipeline, False.elim, fun _ => rfl⟩
  case createIndex keys =>
    exact ⟨_, rfl, served ("create_index", [(1, [])]) (by decide) rfl (.head _),
      Command.sendsInOrder_of_none rfl _, False.elim, False.elim⟩
  case dropIndex name =>
    exact ⟨_, rfl, served ("drop_index", [(1, [])]) (by decide) rfl (.head _),
      Command.sendsInOrder_of_none rfl _, False.elim, False.elim⟩
  case listIndexes =>
    exact ⟨_, rfl, served ("list_indexes", [(0, [])]) (by decide) rfl (.head _),
      Command.sendsInOrder_of_none rfl _, fun _ => rfl, False.elim⟩
  case drop =>
    exact ⟨_, rfl, served ("drop", [(0, [])]) (by decide) rfl (.head _),
      Command.sendsInOrder_of_none rfl _, False.elim, False.elim⟩
  all_goals exact helper.elim

end Collection

/-! ## All helpers -/

/-- Whatever a typed helper is given that it does not refuse: the call that it comes down to fits
the operation that is mirrored, keeps lists of documents in order, and does in every state by its
name what the helper does. -/
theorem helpers_agree_with_invoke :
    (∀ (c : Client) (command : Command) (t : Action Result), c.own? command = some t →
        command.IsHelper → command.Acceptable →
        ∃ call, c.gateway.call? command = some call ∧ Shape.client.Fits call
          ∧ command.SendsInOrder call
          ∧ Agrees c.gateway (fun call => c.invoke call.name call.args call.kwargs) command t call)
      ∧ (∀ (d : Database) (command : Command) (t : Action Result), d.own? command = some t →
        command.IsHelper → command.Acceptable →
        ∃ call, d.gateway.call? command = some call ∧ Shape.database.Fits call
          ∧ command.SendsInOrder call
          ∧ Agrees d.gateway (fun call => d.invoke call.name call.args call.kwargs) command t call)
      ∧ (∀ (c : Collection) (command : Command) (t : Action Result), c.own? command = some t →
        command.IsHelper → command.Acceptable →
        ∃ call, c.gateway.call? command = some call ∧ Shape.collection.Fits call
          ∧ command.SendsInOrder call
          ∧ Agrees c.gateway (fun call => c.invoke call.name call.args call.kwargs) command t
            call) := by
  refine ⟨fun c command t known helper acceptable => ?_,
    fun d command t known helper acceptable => ?_, fun c command t known helper acceptable => ?_⟩
  · obtain ⟨call, prepares⟩ := c.prepares known helper acceptable
    have undertakes := c.own_undertakes known
    rw [prepares.made] at undertakes
    exact ⟨call, prepares.made, prepares.served.1, prepares.documents,
      prepares.agrees c.serves undertakes fun call => c.answer call.name call.args call.kwargs⟩
  · obtain ⟨call, prepares⟩ := d.prepares known helper acceptable
    have undertakes := d.own_undertakes known
    rw [prepares.made] at undertakes
    exact ⟨call, prepares.made, prepares.served.1, prepares.documents,
      prepares.agrees d.serves undertakes fun call => d.answer call.name call.args call.kwargs⟩
  · obtain ⟨call, prepares⟩ := c.prepares known helper acceptable
    have undertakes := c.own_undertakes known
    rw [prepares.made] at undertakes
    exact ⟨call, prepares.made, prepares.served.1, prepares.documents,
      prepares.agrees c.serves undertakes fun call => c.answer call.name⟩

/-- A search with a number of documents to skip and a limit, in a collection of a client that is
made: it agrees with the call that tells both numbers by their names. -/
theorem find_agrees_with_invoke :
    ∃ client, Client.ofOptions 0 "http://h/" [] .standard = .ok client
      ∧ ∃ t,
        let orders : Collection := ⟨⟨client, "shop", 1⟩, "orders"⟩
        let command : Command := .find none [.skip 9223372036854775807, .limit 5]
        let call : Call := ⟨"find", [], [("skip", .int64 9223372036854775807), ("limit", .int64 5)]⟩
        orders.own? command = some t
          ∧ orders.gateway.call? command = some call
          ∧ Shape.collection.Fits call
          ∧ command.SendsInOrder call
          ∧ Agrees orders.gateway (fun call => orders.invoke call.name call.args call.kwargs)
            command t call := by
  have readable : (Endpoint.urlOfText "http://h/").toOption.isSome = true := by decide +kernel
  unfold Client.ofOptions
  rcases read : Endpoint.urlOfText "http://h/" with e | url
  · rw [read] at readable
    cases readable
  · let client : Client := ⟨⟨0, ⟨url, []⟩, Options.standard.codec,
      Options.standard.changeStreamTimeout⟩, .standard⟩
    obtain ⟨call, made, fits, inOrder, agrees⟩ :=
      helpers_agree_with_invoke.2.2 ⟨⟨client, "shop", 1⟩, "orders"⟩
        (.find none [.skip 9223372036854775807, .limit 5]) _ rfl trivial
        (by rintro _ ⟨rfl⟩; decide)
    have told := made
    cases told
    exact ⟨client, rfl, _, rfl, made, fits, inOrder, agrees⟩

end RemoteDriver
