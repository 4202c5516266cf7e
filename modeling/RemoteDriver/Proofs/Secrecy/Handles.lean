import RemoteDriver.Proofs.Secrecy.Redaction

/-!
# Clients, databases and collections without access keys

A gateway reads no keys: it binds and resolves calls by its surface, and forwards them by its
connection.  So nothing that clients, databases and collections make of a command depends on a key
(`Client.own_redacts`, `Database.own_redacts`, `Collection.own_redacts`); only a command that makes
another client comes with a key of its own.
-/

namespace RemoteDriver

open Bson (Document Value)
open RemoteDriver.Action

/-! ## Commands and results -/

/-- A handle without the key of its client. -/
def Handle.redacted : Handle → Handle
  | client c => client c.redacted
  | database d => database d.redacted
  | collection c => collection c.redacted
  | cursor c => cursor c.redacted
  | changeStream s => changeStream s.redacted
  | closeSignal subscription => closeSignal subscription

/-- What a client is made from, without the key. -/
def Setup.redacted (s : Setup) : Setup := { s with accessKey := Endpoint.standIn s.accessKey }

/-- A command without the key of a client that it makes. -/
def Command.redacted : Command → Command
  | newClient setup => newClient setup.redacted
  | other => other

/-- A result without the keys of the handles in it. -/
def Result.redacted : Result → Result
  | outcome o => outcome o.redacted
  | converted o => converted (o.map Outcome.redacted)
  | handle h => handle h.redacted
  | settings c => settings c.redacted
  | r => r

/-- The kind of an outcome does not depend on keys. -/
theorem Outcome.kind_redacted (o : Outcome) : o.redacted.kind = o.kind := by
  cases o <;> rfl

/-- A result is made of an outcome without a look at the keys in it. -/
theorem Result.redacted_ofOutcome (o : Outcome) (into : Option Outcome.Kind) :
    Result.ofOutcome o.redacted into = (Result.ofOutcome o into).redacted := by
  cases into with
  | none => rfl
  | some kind =>
    unfold ofOutcome
    dsimp only
    rw [o.kind_redacted]
    by_cases met : o.kind = kind
    · rw [if_pos met, if_pos met]
      rfl
    · rw [if_neg met, if_neg met]
      rfl

/-- A client is made, or refused, alike for every key that is there. -/
theorem Client.ofOptions_redacted (serial : Nat) (uri : String) (key : List UInt8)
    (options : Options) : ofOptions serial uri (Endpoint.standIn key) options
      = (ofOptions serial uri key options).map redacted := by
  unfold ofOptions
  cases Endpoint.urlOfText uri <;> rfl

/-- A client that is made without its key is the client that is made, without its key. -/
theorem Setup.client_redacted (s : Setup) (serial : Nat) :
    s.redacted.client serial = (s.client serial).map Client.redacted := by
  unfold client
  dsimp only [redacted]
  cases s.options with
  | some options => exact Client.ofOptions_redacted serial s.uri s.accessKey options
  | none =>
    dsimp only
    cases Options.ofText s.uri with
    | ok options => exact Client.ofOptions_redacted serial s.uri s.accessKey options
    | error e => rfl

/-! ## Gateways -/

namespace Gateway

variable (g : Gateway) (name : String) (args : List Value) (kwargs : Document)

/-- A call is passed through without a look at the key. -/
theorem forward_redacts :
    Redacts id (g.forward name args kwargs) (g.redacted.forward name args kwargs) := by
  unfold forward
  rw [show g.redacted.surface = g.surface from rfl]
  rcases g.surface.operation? name with _ | operation
  · exact redacts_fail _
  · dsimp only
    rcases operation.signature.bind name args kwargs with e | _
    · exact redacts_fail e
    · exact g.connection.dispatch_redacts g.sender ⟨name, args, kwargs⟩ g.route

/-- A cursor is opened without a look at the key. -/
theorem openCursor_redacts (seed : CursorSeed) :
    Redacts Cursor.redacted (g.openCursor seed) (g.redacted.openCursor seed) :=
  redacts_fresh.return fun _ => rfl

/-- A change stream is opened without a look at the key. -/
theorem openStream_redacts (seed : StreamSeed) :
    Redacts ChangeStream.redacted (g.openStream seed) (g.redacted.openStream seed) :=
  redacts_fresh.return fun _ => rfl

/-- A call for a value reads no key. -/
theorem value_redacts :
    Redacts id (g.value name args kwargs) (g.redacted.value name args kwargs) :=
  (g.forward_redacts name args kwargs).check fun reply => reply.toValue name

/-- A call for a cursor reads no key. -/
theorem cursor_redacts :
    Redacts Cursor.redacted (g.cursor name args kwargs) (g.redacted.cursor name args kwargs) :=
  redacts_bind (g.forward_redacts name args kwargs) fun reply =>
    redacts_bind (redacts_told (reply.toCursor name)) g.openCursor_redacts

/-- A call for a change stream reads no key. -/
theorem stream_redacts :
    Redacts ChangeStream.redacted (g.stream name args kwargs)
      (g.redacted.stream name args kwargs) :=
  redacts_bind (g.forward_redacts name args kwargs) fun reply =>
    redacts_bind (redacts_told (reply.toStream name)) g.openStream_redacts

/-- A stream of the changes is asked for without a look at the key. -/
theorem watch_redacts (pipeline : Option (List Document)) :
    Redacts ChangeStream.redacted (g.watch pipeline) (g.redacted.watch pipeline) :=
  g.stream_redacts "watch" _ []

/-- A value that is read in some way. -/
theorem read_redacts {α : Type} (read : Value → Except Error α) :
    Redacts id (do ofExcept (read (← g.value name args kwargs)))
      (do ofExcept (read (← g.redacted.value name args kwargs))) :=
  (g.value_redacts name args kwargs).check read

/-- What is made of any reply depends on no key. -/
theorem forwardOutcome_redacts : Redacts Outcome.redacted (g.forwardOutcome name args kwargs)
    (g.redacted.forwardOutcome name args kwargs) := by
  refine redacts_bind (g.forward_redacts name args kwargs) fun reply => ?_
  cases reply with
  | value v => exact redacts_pure rfl
  | cursor seed => exact (g.openCursor_redacts seed).return fun _ => rfl
  | stream seed => exact (g.openStream_redacts seed).return fun _ => rfl

/-- A call by name reads no keys if the handle itself reads none. -/
theorem invoke_redacts {answer answer' : Action Outcome}
    (own : Redacts Outcome.redacted answer answer') :
    Redacts Outcome.redacted (g.invoke name args kwargs answer)
      (g.redacted.invoke name args kwargs answer') := by
  unfold invoke
  rw [show g.redacted.resolve name args kwargs = g.resolve name args kwargs from rfl]
  rcases g.resolve name args kwargs with e | _ | _
  · exact redacts_fail e
  · exact g.forwardOutcome_redacts name args kwargs
  · exact own

/-- What all handles with operations know. -/
theorem common_redacts (command : Command) :
    Option.Rel (Redacts Result.redacted) (Handle.common? g command)
      (Handle.common? g.redacted command.redacted) := by
  cases command
  case route | surface => exact .some (redacts_pure rfl)
  case forward call => exact .some ((g.forward_redacts _ _ _).return fun _ => rfl)
  case forwardOutcome call into =>
    exact .some ((g.forwardOutcome_redacts _ _ _).return fun o => Result.redacted_ofOutcome o into)
  all_goals exact .none

end Gateway

/-! ## Clients -/

namespace Client

variable (c : Client)

/-- A database is looked up and entered without a look at the key. -/
theorem cached_redacts (name : String) :
    Redacts Database.redacted (c.cached name) (c.redacted.cached name) := by
  intro limits w
  unfold cached
  rw [show c.redacted.databaseKey name = c.databaseKey name from rfl,
    show w.redacted.databases = w.databases from rfl]
  cases w.databases.lookup (c.databaseKey name) <;> rfl

/-- Asking for a database by its name reads no key. -/
theorem getDatabase_redacts (name : Option String) :
    Redacts Database.redacted (c.getDatabase name) (c.redacted.getDatabase name) := by
  unfold getDatabase
  split
  · split
    · exact redacts_fail _
    · exact c.cached_redacts _
  · exact redacts_fail _

/-- Asking for a database as an attribute reads no key. -/
theorem attr_redacts (name : String) :
    Redacts Database.redacted (c.attr name) (c.redacted.attr name) := by
  unfold attr
  split
  · exact redacts_fail _
  · exact c.getDatabase_redacts _

/-- Asking for the default database reads no key. -/
theorem defaultDatabase_redacts (fallback : Option String) :
    Redacts Database.redacted (c.defaultDatabase fallback)
      (c.redacted.defaultDatabase fallback) := by
  unfold defaultDatabase
  rw [show c.redacted.options = c.options from rfl]
  split
  · exact c.getDatabase_redacts _
  · exact redacts_fail _

/-- Closing a client reads no key. -/
theorem close_redacts : Redacts id c.close c.redacted.close := by
  have closes (w : World) : w.redacted.close c.connection.client
      = (w.close c.connection.client).redacted := by
    unfold World.close
    rw [show w.redacted.isClosed c.connection.client = w.isClosed c.connection.client from rfl]
    split <;> rfl
  have closing : Redacts id c.connection.close c.redacted.connection.close :=
    redacts_bind (redacts_look fun _ => rfl) fun _ =>
      redacts_bind (redacts_change closes) fun _ => redacts_pure rfl
  exact redacts_bind closing fun _ => redacts_pure rfl

/-- Dropping a database reads no key. -/
theorem dropDatabase_redacts (name : String) :
    Redacts id (c.dropDatabase name) (c.redacted.dropDatabase name) := by
  unfold dropDatabase
  split
  · exact redacts_fail _
  · exact redacts_bind (c.gateway.forward_redacts _ _ _) fun _ => redacts_pure rfl

/-- What a client itself makes of a call by name. -/
theorem answer_redacts (name : String) (args : List Value) (kwargs : Document) :
    Redacts Outcome.redacted (c.answer name args kwargs) (c.redacted.answer name args kwargs) := by
  have argument (key : String) := redacts_told (textArgument name args kwargs key)
  unfold answer
  split
  · exact redacts_bind (argument _) fun _ => (c.getDatabase_redacts _).return fun _ => rfl
  split
  · exact redacts_bind (argument _) fun _ => (c.defaultDatabase_redacts _).return fun _ => rfl
  split
  · exact redacts_fail _
  split
  · exact redacts_bind c.close_redacts fun _ => redacts_pure rfl
  split
  · exact redacts_pure rfl
  · exact redacts_fail _

/-- Nothing that is asked of a client depends on a key. -/
theorem own_redacts (command : Command) : Option.Rel (Redacts Result.redacted) (c.own? command)
    (c.redacted.own? command.redacted) := by
  cases command
  case invoke call into =>
    have answers := c.answer_redacts call.name call.args call.kwargs
    exact .some ((c.gateway.invoke_redacts _ _ _ answers).return
      fun o => Result.redacted_ofOutcome o into)
  case getDatabase name => exact .some ((c.getDatabase_redacts name).return fun _ => rfl)
  case get name => exact .some ((c.getDatabase_redacts _).return fun _ => rfl)
  case member name => exact .some ((c.attr_redacts name).return fun _ => rfl)
  case defaultDatabase => exact .some ((c.defaultDatabase_redacts none).return fun _ => rfl)
  case listDatabases filter =>
    exact .some ((c.gateway.cursor_redacts _ _ _).return fun _ => rfl)
  case listDatabaseNames =>
    exact .some ((c.gateway.read_redacts _ _ _ _).return fun _ => rfl)
  case dropDatabase name =>
    exact .some (redacts_bind (c.dropDatabase_redacts name) fun _ => redacts_pure rfl)
  case serverInfo => exact .some ((c.gateway.read_redacts _ _ _ _).return fun _ => rfl)
  case watch pipeline => exact .some ((c.gateway.watch_redacts pipeline).return fun _ => rfl)
  case startSession => exact .some (redacts_fail _)
  case topology => exact .some (redacts_pure rfl)
  case close => exact .some (redacts_bind c.close_redacts fun _ => redacts_pure rfl)
  case isClosed =>
    have asked : Redacts id c.isClosed c.redacted.isClosed := redacts_look fun _ => rfl
    exact .some (asked.return fun _ => rfl)
  case settings => exact .some (redacts_pure rfl)
  case clone => exact .some (redacts_pure rfl)
  case newClient setup =>
    exact .some (redacts_bind redacts_fresh fun serial =>
      (redacts_ofExcept (setup.client_redacted serial)).return fun _ => rfl)
  all_goals exact .none

end Client

/-! ## Databases -/

namespace Database

variable (d : Database)

/-- The client of a database is brought without a look at its key. -/
theorem client_redacts : Redacts Client.redacted d.client d.redacted.client := by
  have looked : Redacts id (look (·.dropped.contains d.owner.connection.client))
      (look (·.dropped.contains d.redacted.owner.connection.client)) := redacts_look fun _ => rfl
  refine redacts_bind looked fun gone => ?_
  cases gone
  · exact redacts_pure rfl
  · exact redacts_fail _

/-- A collection is named without a look at the key. -/
theorem getCollection_redacted (name : String) :
    d.redacted.getCollection name = (d.getCollection name).map Collection.redacted := by
  unfold getCollection
  split <;> rfl

/-- A collection is named as an attribute without a look at the key. -/
theorem attr_redacted (name : String) :
    d.redacted.attr name = (d.attr name).map Collection.redacted := by
  unfold attr
  split
  · rfl
  · exact d.getCollection_redacted name

/-- Creating a collection reads no key. -/
theorem createCollection_redacts (name : String) : Redacts Collection.redacted
    (d.createCollection name) (d.redacted.createCollection name) :=
  redacts_bind (redacts_ofExcept (d.getCollection_redacted name)) fun _ =>
    redacts_bind (d.gateway.forward_redacts _ _ _) fun _ => redacts_pure rfl

/-- Dropping a collection reads no key. -/
theorem dropCollection_redacts (name : String) :
    Redacts id (d.dropCollection name) (d.redacted.dropCollection name) := by
  unfold dropCollection
  split
  · exact redacts_fail _
  · exact redacts_bind (d.gateway.forward_redacts _ _ _) fun _ => redacts_pure rfl

/-- What a database itself makes of a call by name. -/
theorem answer_redacts (name : String) (args : List Value) (kwargs : Document) :
    Redacts Outcome.redacted (d.answer name args kwargs) (d.redacted.answer name args kwargs) := by
  unfold answer
  split
  · exact redacts_pure rfl
  split
  · exact d.client_redacts.return fun _ => rfl
  split
  · exact redacts_bind (redacts_told (textArgument name args kwargs "name")) fun _ =>
      (redacts_ofExcept (d.getCollection_redacted _)).return fun _ => rfl
  split
  · exact redacts_pure rfl
  split
  · exact redacts_pure rfl
  · exact redacts_fail _

/-- Nothing that is asked of a database depends on a key. -/
theorem own_redacts (command : Command) : Option.Rel (Redacts Result.redacted) (d.own? command)
    (d.redacted.own? command.redacted) := by
  cases command
  case invoke call into =>
    have answers := d.answer_redacts call.name call.args call.kwargs
    exact .some ((d.gateway.invoke_redacts _ _ _ answers).return
      fun o => Result.redacted_ofOutcome o into)
  case name | describe => exact .some (redacts_pure rfl)
  case client => exact .some (d.client_redacts.return fun _ => rfl)
  case getCollection name =>
    exact .some ((redacts_ofExcept (d.getCollection_redacted name)).return fun _ => rfl)
  case member name =>
    exact .some ((redacts_ofExcept (d.attr_redacted name)).return fun _ => rfl)
  case listCollections | aggregate =>
    exact .some ((d.gateway.cursor_redacts _ _ _).return fun _ => rfl)
  case listCollectionNames | command =>
    exact .some ((d.gateway.read_redacts _ _ _ _).return fun _ => rfl)
  case createCollection name =>
    exact .some ((d.createCollection_redacts name).return fun _ => rfl)
  case watch pipeline => exact .some ((d.gateway.watch_redacts pipeline).return fun _ => rfl)
  case dropCollection name =>
    exact .some (redacts_bind (d.dropCollection_redacts name) fun _ => redacts_pure rfl)
  all_goals exact .none

end Database

/-! ## Collections -/

namespace Collection

variable (c : Collection)

/-- A call that reads its reply reads no key. -/
theorem result_redacts (operation : String) (args : List Value) (kwargs : Document) :
    Redacts id (c.result operation args kwargs) (c.redacted.result operation args kwargs) :=
  c.gateway.read_redacts operation args kwargs (Expected.document operation)

/-- A search reads no key. -/
theorem find_redacts (filter : Option Document) (options : FindOptions) :
    Redacts Cursor.redacted (c.find filter options) (c.redacted.find filter options) :=
  redacts_bind (redacts_told options.toKwargs) fun kwargs =>
    c.gateway.cursor_redacts "find" (filterArgs filter) kwargs

/-- An update reads no key. -/
theorem update_redacts (operation : String) (filter update : Document) (options : UpdateOptions) :
    Redacts id (c.update operation filter update options)
      (c.redacted.update operation filter update options) :=
  (c.result_redacts operation _ _).check (updateResult operation)

/-- A deletion reads no key. -/
theorem delete_redacts (operation : String) (filter : Document) :
    Redacts id (c.delete operation filter) (c.redacted.delete operation filter) :=
  (c.result_redacts operation _ _).check (Expected.countField operation · "deleted_count")

/-- What a collection itself makes of a call by name. -/
theorem answer_redacts (name : String) :
    Redacts Outcome.redacted (c.answer name) (c.redacted.answer name) := by
  unfold answer
  split
  · exact redacts_pure rfl
  split
  · exact redacts_pure rfl
  split
  · exact redacts_pure rfl
  split
  · exact redacts_pure rfl
  split
  · exact redacts_pure rfl
  · exact redacts_fail _

/-- Nothing that is asked of a collection depends on a key. -/
theorem own_redacts (command : Command) : Option.Rel (Redacts Result.redacted) (c.own? command)
    (c.redacted.own? command.redacted) := by
  cases command
  case invoke call into =>
    exact .some ((c.gateway.invoke_redacts _ _ _ (c.answer_redacts call.name)).return
      fun o => Result.redacted_ofOutcome o into)
  case name | fullName | describe | database => exact .some (redacts_pure rfl)
  case insertOne | insertMany =>
    have inserted {α : Type} {operation : String} {args : List Value} {kwargs : Document}
        (read : Document → α) :
        Redacts id (do return read (← c.result operation args kwargs))
          (do return read (← c.redacted.result operation args kwargs)) :=
      (c.result_redacts operation args kwargs).return fun _ => rfl
    exact .some ((inserted _).return fun _ => rfl)
  case find filter options =>
    exact .some ((c.find_redacts filter (.ofList options)).return fun _ => rfl)
  case findOne | countDocuments | estimatedDocumentCount | distinct | createIndex =>
    exact .some ((c.gateway.read_redacts _ _ _ _).return fun _ => rfl)
  case updateOne | updateMany | replaceOne =>
    exact .some ((c.update_redacts _ _ _ _).return fun _ => rfl)
  case deleteOne | deleteMany => exact .some ((c.delete_redacts _ _).return fun _ => rfl)
  case aggregate | listIndexes =>
    exact .some ((c.gateway.cursor_redacts _ _ _).return fun _ => rfl)
  case watch pipeline => exact .some ((c.gateway.watch_redacts pipeline).return fun _ => rfl)
  case dropIndex | drop =>
    have dropped {operation : String} {args : List Value} :
        Redacts id (do let _ ← c.gateway.value operation args [])
          (do let _ ← c.redacted.gateway.value operation args []) :=
      redacts_bind (c.gateway.value_redacts operation args []) fun _ => redacts_pure rfl
    exact .some (redacts_bind dropped fun _ => redacts_pure rfl)
  all_goals exact .none

end Collection

end RemoteDriver
