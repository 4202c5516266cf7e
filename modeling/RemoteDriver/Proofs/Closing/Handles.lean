import RemoteDriver.Proofs.Closing.Calls
import RemoteDriver.Session.Service

/-!
# Handles and closed clients

Whatever is asked of a client, a database or a collection is gated by its client, and a handle that
it brings belongs to that client too.  There are two exceptions, both of them commands to a client:
another client is nobody's, and closing a client, or asking whether it is closed, is about the very
thing that the gate is made of.
-/

namespace RemoteDriver

open Bson (Document Value)

/-! ## To whom handles belong -/

/-- The client that a handle was obtained from; a close signal has none. -/
def Handle.client? : Handle → Option Nat
  | client c => some c.connection.client
  | database d => some d.owner.connection.client
  | collection c => some c.database.owner.connection.client
  | cursor c => some c.connection.client
  | changeStream s => some s.connection.client
  | closeSignal _ => none

/-- The handle leads to this client or to none. -/
def Handle.BelongsTo (client : Nat) (h : Handle) : Prop := ∀ m, h.client? = some m → m = client

/-- A handle of a client belongs to it. -/
theorem Handle.belongsTo {client : Nat} {h : Handle} (same : h.client? = some client) :
    h.BelongsTo client := by
  intro m hm
  rw [same] at hm
  exact (Option.some.inj hm).symm

/-- A handle that leads to nobody belongs to whomever one likes. -/
theorem Handle.belongsTo_of_none {h : Handle} (none : h.client? = .none) (client : Nat) :
    h.BelongsTo client := by
  intro m hm
  rw [none] at hm
  cases hm

/-- Every handle belongs to somebody. -/
theorem Handle.exists_client (h : Handle) : ∃ client, h.BelongsTo client := by
  rcases known : h.client? with _ | m
  · exact ⟨0, belongsTo_of_none known 0⟩
  · exact ⟨m, belongsTo known⟩

/-- Handles with one connection lead to one client. -/
theorem client_eq {c c' : Connection} (same : c = c') : some c.client = some c'.client := by
  rw [same]

/-- The handle that is brought, if there is one, belongs to this client. -/
def Belongs (client : Nat) (h? : Option Handle) : Prop := ∀ h, h? = some h → h.BelongsTo client

/-- Where nothing is brought, nothing belongs to another client. -/
theorem Belongs.none (client : Nat) : Belongs client .none := by
  rintro _ ⟨⟩

/-- A handle that is brought belongs where it leads. -/
theorem Belongs.some {client : Nat} {h : Handle} (belongs : h.BelongsTo client) :
    Belongs client (.some h) := by
  rintro _ ⟨rfl⟩
  exact belongs

/-- A kind that was asked for does not change who an outcome belongs to. -/
theorem Belongs.ofOutcome {client : Nat} {o : Outcome} (belongs : Belongs client o.handle?)
    (into : Option Outcome.Kind) : Belongs client (Result.ofOutcome o into).handle? := by
  cases into with
  | none => exact belongs
  | some kind =>
    show Belongs client (Result.converted (if o.kind = kind then .some o else .none)).handle?
    split
    · exact belongs
    · exact .none client

/-- Commands that are about the closing of a client, if they are given to one. -/
def Command.ConcernsClosing : Command → Prop
  | .close => True
  | .isClosed => True
  | .invoke call _ => call.name = "close"
  | _ => False

/-- Commands that bring another client. -/
def Command.BringsClient : Command → Prop
  | .newClient _ => True
  | _ => False

/-! ## What gateways serve -/

namespace Action

variable {α β : Type} {client : Nat} {owned : α → Prop} {owned' : β → Prop}

/-- A result that is put into other words. -/
theorem gated_return {t : Action α} {f : α → β} (h : t.Gated client owned)
    (keeps : ∀ a, owned a → owned' (f a)) : (do return f (← t) : Action β).Gated client owned' :=
  gated_bind h fun a ha => gated_pure (keeps a ha)

/-- A result that is no handle. -/
theorem gated_plain {t : Action α} {f : α → Result} (h : t.Gated client owned)
    (plain : ∀ a, (f a).handle? = none) :
    (do return f (← t) : Action Result).Gated client fun r => Belongs client r.handle? := by
  apply gated_return h
  intro a _
  rw [plain]
  exact .none client

/-- A result that is a handle. -/
theorem gated_handle {t : Action α} {f : α → Handle} (h : t.Gated client owned)
    (belongs : ∀ a, owned a → (f a).client? = some client) :
    (do return .handle (f (← t)) : Action Result).Gated client
      fun r => Belongs client r.handle? :=
  gated_return h fun a ha => .some (Handle.belongsTo (belongs a ha))

/-- A computation that is only run for what it does. -/
theorem gated_done_after {t : Action α} (h : t.Gated client owned) :
    (do let _ ← t; return .done : Action Result).Gated client fun r => Belongs client r.handle? :=
  gated_bind h fun _ _ => gated_pure (.none client)

/-- A value that is read in some way. -/
theorem gated_read {t : Action α} {f : α → Except Error β} (h : t.Gated client owned) :
    (do Action.ofExcept (f (← t)) : Action β).Gated client fun _ => True :=
  gated_bind h fun _ _ => gated_told _

end Action

open RemoteDriver.Action

namespace Gateway

variable (g : Gateway)

/-- The outcome of a call by name belongs to the client of the gateway. -/
theorem forwardOutcome_gated (name : String) (args : List Value) (kwargs : Document) :
    (g.forwardOutcome name args kwargs).Gated g.connection.client
      fun o => Belongs g.connection.client o.handle? := by
  apply gated_bind (g.forward_gated name args kwargs)
  intro reply _
  cases reply with
  | value v => exact gated_pure (.none _)
  | cursor seed =>
    apply gated_return (g.openCursor_gated seed)
    intro c same
    exact .some (Handle.belongsTo (client_eq same))
  | stream seed =>
    apply gated_return (g.openStream_gated seed)
    intro s same
    exact .some (Handle.belongsTo (client_eq same))

/-- A call by name is gated if what the handle itself makes of it is. -/
theorem invoke_gated (name : String) (args : List Value) (kwargs : Document)
    {answer : Action Outcome}
    (h : answer.Gated g.connection.client fun o => Belongs g.connection.client o.handle?) :
    (g.invoke name args kwargs answer).Gated g.connection.client
      fun o => Belongs g.connection.client o.handle? := by
  unfold invoke
  split
  · exact gated_fail _
  · exact g.forwardOutcome_gated name args kwargs
  · exact h

/-- What all handles with operations know. -/
theorem common_gated {command : Command} {t : Action Result}
    (known : Handle.common? g command = some t) :
    t.Gated g.connection.client fun r => Belongs g.connection.client r.handle? := by
  cases command <;> cases known
  case route => exact gated_pure (.none _)
  case surface => exact gated_pure (.none _)
  case forward call => exact gated_plain (g.forward_gated _ _ _) fun _ => rfl
  case forwardOutcome call into =>
    exact gated_return (g.forwardOutcome_gated _ _ _) fun _ h => h.ofOutcome into

end Gateway

/-! ## Clients -/

namespace Client

variable (c : Client)

/-- A database handle has its client for an owner. -/
theorem cached_gated (name : String) :
    (c.cached name).Gated c.connection.client fun d => d.owner = c := by
  have same (n : Nat) (limits : Limits) (w : World) : c.cached name limits (w.reopened n)
      = ((c.cached name limits w).1, (c.cached name limits w).2.reopened n) := by
    unfold cached
    dsimp only [World.reopened]
    split <;> rfl
  refine .of_apart ?_ ?_ ?_ same ?_
  · intro limits w
    unfold cached
    split <;> rfl
  · intro limits w
    unfold cached
    split <;> rfl
  · intro limits w
    unfold cached
    split
    · exact Nat.le_refl _
    · exact Nat.le_succ _
  · intro limits w d hd
    unfold cached at hd
    split at hd <;> cases hd <;> rfl

/-- Asking for a database by its name is gated by the client. -/
theorem getDatabase_gated (name : Option String) :
    (c.getDatabase name).Gated c.connection.client fun d => d.owner = c := by
  unfold getDatabase
  split
  · split
    · exact gated_fail _
    · exact c.cached_gated _
  · exact gated_fail _

/-- Asking for a database as an attribute is gated by the client. -/
theorem attr_gated (name : String) :
    (c.attr name).Gated c.connection.client fun d => d.owner = c := by
  unfold attr
  split
  · exact gated_fail _
  · exact c.getDatabase_gated _

/-- Asking for the default database is gated by the client. -/
theorem defaultDatabase_gated (fallback : Option String) :
    (c.defaultDatabase fallback).Gated c.connection.client fun d => d.owner = c := by
  unfold defaultDatabase
  split
  · exact c.getDatabase_gated _
  · exact gated_fail _

/-- Dropping a database is gated by the client. -/
theorem dropDatabase_gated (name : String) :
    (c.dropDatabase name).Gated c.connection.client fun _ => True := by
  unfold dropDatabase
  split
  · exact gated_fail _
  · exact gated_bind (c.gateway.forward_gated _ _ _) fun _ _ => gated_pure trivial

/-- A database handle belongs to the client that owns it. -/
theorem client_of_owner {d : Database} (owned : d.owner = c) :
    (Handle.database d).client? = some c.connection.client := by
  show some d.owner.connection.client = _
  rw [owned]

/-- What a client itself makes of a call is gated, unless it is to be closed. -/
theorem answer_gated {name : String} (args : List Value) (kwargs : Document)
    (other : name ≠ "close") : (c.answer name args kwargs).Gated c.connection.client
      fun o => Belongs c.connection.client o.handle? := by
  have database {t : Action Database} (h : t.Gated c.connection.client fun d => d.owner = c) :
      (do return .database (← t) : Action Outcome).Gated c.connection.client
        fun o => Belongs c.connection.client o.handle? :=
    gated_return h fun _ owned => .some (Handle.belongsTo (c.client_of_owner owned))
  unfold answer
  split
  · exact gated_bind (gated_told _) fun _ _ => database (c.getDatabase_gated _)
  · split
    · exact gated_bind (gated_told _) fun _ _ => database (c.defaultDatabase_gated _)
    · split
      · exact gated_fail _
      · split
        · exact gated_pure (.none _)
        · exact gated_fail _

/-- Whatever is asked of a client is gated, but for its closing; other clients are nobody's. -/
theorem own_gated {command : Command} {t : Action Result} (known : c.own? command = some t)
    (other : ¬ command.ConcernsClosing) : t.Gated c.connection.client
      fun r => ¬ command.BringsClient → Belongs c.connection.client r.handle? := by
  cases command <;> simp only [own?, Option.some.injEq, reduceCtorEq] at known <;> subst known
  case newClient setup =>
    apply gated_bind gated_fresh
    intro serial _
    apply gated_return (gated_told _)
    exact fun _ _ plain => absurd trivial plain
  case close => exact absurd trivial other
  case isClosed => exact absurd trivial other
  all_goals refine Gated.mono ?_ fun r (h : Belongs c.connection.client r.handle?) _ => h
  case invoke call into =>
    apply gated_return (c.gateway.invoke_gated _ _ _ (c.answer_gated _ _ other))
    exact fun _ h => h.ofOutcome into
  case getDatabase name =>
    exact gated_handle (c.getDatabase_gated name) fun _ => c.client_of_owner
  case get name => exact gated_handle (c.getDatabase_gated name) fun _ => c.client_of_owner
  case member name => exact gated_handle (c.attr_gated name) fun _ => c.client_of_owner
  case defaultDatabase =>
    exact gated_handle (c.defaultDatabase_gated none) fun _ => c.client_of_owner
  case listDatabases filter =>
    exact gated_handle (c.gateway.cursor_gated _ _ _) fun _ => client_eq
  case listDatabaseNames =>
    exact gated_plain (gated_read (c.gateway.value_gated _ _ _)) fun _ => rfl
  case dropDatabase name => exact gated_done_after (c.dropDatabase_gated name)
  case serverInfo => exact gated_plain (gated_read (c.gateway.value_gated _ _ _)) fun _ => rfl
  case watch pipeline => exact gated_handle (c.gateway.watch_gated pipeline) fun _ => client_eq
  case startSession => exact gated_fail _
  case topology => exact gated_pure (.none _)
  case settings => exact gated_pure (.none _)
  case clone => exact gated_pure (.some (Handle.belongsTo rfl))

end Client

/-! ## Databases -/

namespace Database

variable (d : Database)

/-- The client of a database is told as long as it is there, closed or not. -/
theorem client_gated : d.client.Gated d.owner.connection.client fun c => c = d.owner := by
  have dropped : (Action.look (·.dropped.contains d.owner.connection.client)).Gated
      d.owner.connection.client fun _ => True := gated_look (fun _ _ => rfl) fun _ => trivial
  apply gated_bind dropped
  intro gone _
  split
  · exact gated_fail _
  · exact gated_pure rfl

/-- A collection belongs to the client of its database. -/
theorem database_of_getCollection {name : String} {c : Collection}
    (h : d.getCollection name = .ok c) : c.database = d := by
  unfold getCollection at h
  split at h <;> cases h
  rfl

/-- Naming a collection needs no open client, and the collection is of this database. -/
theorem getCollection_gated (name : String) : (Action.ofExcept (d.getCollection name)).Gated
    d.owner.connection.client fun c => c.database = d :=
  gated_ofExcept fun _ => d.database_of_getCollection

/-- Naming a collection as an attribute needs no open client. -/
theorem attr_gated (name : String) :
    (Action.ofExcept (d.attr name)).Gated d.owner.connection.client fun c => c.database = d := by
  unfold attr
  split
  · exact gated_fail _
  · exact d.getCollection_gated name

/-- Creating a collection is gated by the client of the database. -/
theorem createCollection_gated (name : String) :
    (d.createCollection name).Gated d.owner.connection.client fun c => c.database = d := by
  apply gated_bind (d.getCollection_gated name)
  intro c owned
  exact gated_bind (d.gateway.forward_gated _ _ _) fun _ _ => gated_pure owned

/-- Dropping a collection is gated by the client of the database. -/
theorem dropCollection_gated (name : String) :
    (d.dropCollection name).Gated d.owner.connection.client fun _ => True := by
  unfold dropCollection
  split
  · exact gated_fail _
  · exact gated_bind (d.gateway.forward_gated _ _ _) fun _ _ => gated_pure trivial

/-- A collection handle belongs to the client that owns its database. -/
theorem client_of_database {c : Collection} (owned : c.database = d) :
    (Handle.collection c).client? = some d.owner.connection.client := by
  show some c.database.owner.connection.client = _
  rw [owned]

/-- The client of a database leads to itself. -/
theorem client_of_eq {c : Client} (same : c = d.owner) :
    (Handle.client c).client? = some d.owner.connection.client := by
  rw [same]
  rfl

/-- What a database itself makes of a call is gated. -/
theorem answer_gated (name : String) (args : List Value) (kwargs : Document) :
    (d.answer name args kwargs).Gated d.owner.connection.client
      fun o => Belongs d.owner.connection.client o.handle? := by
  unfold answer
  split
  · exact gated_pure (.none _)
  · split
    · apply gated_return d.client_gated
      intro _ same
      exact .some (Handle.belongsTo (d.client_of_eq same))
    · split
      · apply gated_bind (gated_told _)
        intro collection _
        apply gated_return (d.getCollection_gated _)
        intro _ owned
        exact .some (Handle.belongsTo (d.client_of_database owned))
      · split
        · exact gated_pure (.some (Handle.belongsTo rfl))
        · split
          · exact gated_pure (.none _)
          · exact gated_fail _

/-- Whatever is asked of a database is gated. -/
theorem own_gated {command : Command} {t : Action Result} (known : d.own? command = some t) :
    t.Gated d.owner.connection.client
      fun r => Belongs d.owner.connection.client r.handle? := by
  cases command <;> simp only [own?, Option.some.injEq, reduceCtorEq] at known <;> subst known
  case invoke call into =>
    apply gated_return (d.gateway.invoke_gated _ _ _ (d.answer_gated _ _ _))
    exact fun _ h => h.ofOutcome into
  case name => exact gated_pure (.none _)
  case describe => exact gated_pure (.none _)
  case client => exact gated_handle d.client_gated fun _ => d.client_of_eq
  case getCollection name =>
    exact gated_handle (d.getCollection_gated name) fun _ => d.client_of_database
  case member name => exact gated_handle (d.attr_gated name) fun _ => d.client_of_database
  case listCollections filter =>
    exact gated_handle (d.gateway.cursor_gated _ _ _) fun _ => client_eq
  case listCollectionNames filter =>
    exact gated_plain (gated_read (d.gateway.value_gated _ _ _)) fun _ => rfl
  case command command =>
    exact gated_plain (gated_read (d.gateway.value_gated _ _ _)) fun _ => rfl
  case createCollection name =>
    exact gated_handle (d.createCollection_gated name) fun _ => d.client_of_database
  case aggregate pipeline =>
    exact gated_handle (d.gateway.cursor_gated _ _ _) fun _ => client_eq
  case watch pipeline => exact gated_handle (d.gateway.watch_gated pipeline) fun _ => client_eq
  case dropCollection name => exact gated_done_after (d.dropCollection_gated name)

end Database

/-! ## Collections -/

namespace Collection

variable (c : Collection)

/-- A call that reads its reply is gated by the client of the collection. -/
theorem result_gated (operation : String) (args : List Value) (kwargs : Document) :
    (c.result operation args kwargs).Gated c.database.owner.connection.client fun _ => True :=
  gated_read (c.gateway.value_gated _ _ _)

/-- Inserting a document is gated by the client of the collection. -/
theorem insertOne_gated (document : Document) :
    (c.insertOne document).Gated c.database.owner.connection.client fun _ => True :=
  gated_return (c.result_gated _ _ _) fun _ h => h

/-- Inserting documents is gated by the client of the collection. -/
theorem insertMany_gated (documents : List Document) :
    (c.insertMany documents).Gated c.database.owner.connection.client fun _ => True :=
  gated_return (c.result_gated _ _ _) fun _ h => h

/-- A search is gated by the client, and its cursor has the connection of the collection. -/
theorem find_gated (filter : Option Document) (options : FindOptions) :
    (c.find filter options).Gated c.database.owner.connection.client
      fun cursor => cursor.connection = c.database.owner.connection :=
  gated_bind (gated_told _) fun _ _ => c.gateway.cursor_gated _ _ _

/-- An update is gated by the client of the collection. -/
theorem update_gated (operation : String) (filter update : Document) (options : UpdateOptions) :
    (c.update operation filter update options).Gated c.database.owner.connection.client
      fun _ => True :=
  gated_read (c.result_gated _ _ _)

/-- A deletion is gated by the client of the collection. -/
theorem delete_gated (operation : String) (filter : Document) :
    (c.delete operation filter).Gated c.database.owner.connection.client fun _ => True :=
  gated_read (c.result_gated _ _ _)

/-- Dropping an index is gated by the client of the collection. -/
theorem dropIndex_gated (name : String) :
    (c.dropIndex name).Gated c.database.owner.connection.client fun _ => True :=
  gated_bind (c.gateway.value_gated _ _ _) fun _ _ => gated_pure trivial

/-- Dropping a collection is gated by its client. -/
theorem drop_gated : c.drop.Gated c.database.owner.connection.client fun _ => True :=
  gated_bind (c.gateway.value_gated _ _ _) fun _ _ => gated_pure trivial

/-- What a collection itself makes of a call is gated. -/
theorem answer_gated (name : String) :
    (c.answer name).Gated c.database.owner.connection.client
      fun o => Belongs c.database.owner.connection.client o.handle? := by
  unfold answer
  split
  · exact gated_pure (.none _)
  · split
    · exact gated_pure (.none _)
    · split
      · exact gated_pure (.some (Handle.belongsTo rfl))
      · split
        · exact gated_pure (.some (Handle.belongsTo rfl))
        · split
          · exact gated_pure (.none _)
          · exact gated_fail _

/-- Whatever is asked of a collection is gated. -/
theorem own_gated {command : Command} {t : Action Result} (known : c.own? command = some t) :
    t.Gated c.database.owner.connection.client
      fun r => Belongs c.database.owner.connection.client r.handle? := by
  cases command <;> simp only [own?, Option.some.injEq, reduceCtorEq] at known <;> subst known
  case invoke call into =>
    apply gated_return (c.gateway.invoke_gated _ _ _ (c.answer_gated _))
    exact fun _ h => h.ofOutcome into
  case name => exact gated_pure (.none _)
  case fullName => exact gated_pure (.none _)
  case describe => exact gated_pure (.none _)
  case database => exact gated_pure (.some (Handle.belongsTo rfl))
  case insertOne document => exact gated_plain (c.insertOne_gated document) fun _ => rfl
  case insertMany documents => exact gated_plain (c.insertMany_gated documents) fun _ => rfl
  case find filter options => exact gated_handle (c.find_gated filter _) fun _ => client_eq
  case findOne filter =>
    exact gated_plain (gated_read (c.gateway.value_gated _ _ _)) fun _ => rfl
  case updateOne filter update options =>
    exact gated_plain (c.update_gated _ filter update _) fun _ => rfl
  case updateMany filter update options =>
    exact gated_plain (c.update_gated _ filter update _) fun _ => rfl
  case replaceOne filter replacement =>
    exact gated_plain (c.update_gated _ filter replacement _) fun _ => rfl
  case deleteOne filter => exact gated_plain (c.delete_gated _ filter) fun _ => rfl
  case deleteMany filter => exact gated_plain (c.delete_gated _ filter) fun _ => rfl
  case countDocuments filter =>
    exact gated_plain (gated_read (c.gateway.value_gated _ _ _)) fun _ => rfl
  case estimatedDocumentCount =>
    exact gated_plain (gated_read (c.gateway.value_gated _ _ _)) fun _ => rfl
  case distinct key filter =>
    exact gated_plain (gated_read (c.gateway.value_gated _ _ _)) fun _ => rfl
  case aggregate pipeline =>
    exact gated_handle (c.gateway.cursor_gated _ _ _) fun _ => client_eq
  case watch pipeline => exact gated_handle (c.gateway.watch_gated pipeline) fun _ => client_eq
  case createIndex keys =>
    exact gated_plain (gated_read (c.gateway.value_gated _ _ _)) fun _ => rfl
  case dropIndex name => exact gated_done_after (c.dropIndex_gated name)
  case listIndexes => exact gated_handle (c.gateway.cursor_gated _ _ _) fun _ => client_eq
  case drop => exact gated_done_after c.drop_gated

end Collection

end RemoteDriver
