import RemoteDriver.Proofs.Closing.Runs
import RemoteDriver.Proofs.Identity.Bringing
import RemoteDriver.Proofs.Routing.Tokens
import RemoteDriver.Proofs.Surface.Helpers

/-!
# What commands bring

Only a client that is asked for a database enters one into the world, and then one at most, under
the name that the command stands for (`Client.service_seeks`).  Whatever else is asked of whatever
handle leaves the databases as they are.  No command brings anything but what `Handle.Issues` lists,
and a cursor or a change stream stays the one it was (`Handle.service_provides`).
-/

namespace RemoteDriver

open Bson (Document Value)
open RemoteDriver.Action
open World (Sends Still Retains Gave)

/-! ## Clients -/

/-- The commands that ask a client for a database. -/
def Command.AsksForDatabase : Command → Prop
  | .getDatabase _ | .get _ | .member _ | .defaultDatabase => True
  | .invoke call _ => call.name = "get_database" ∨ call.name = "get_default_database"
  | _ => False

namespace Client

variable (c : Client) (command : Command)

/-- Closing a client enters no database. -/
theorem close_retaining : Retaining c.close := by
  have closes : Retaining c.connection.close := by
    refine brings_bind (retaining_look _) fun _ => ?_
    refine brings_bind (retaining_change fun w => w.retains_close _) fun _ => ?_
    exact brings_pure fun _ _ _ _ _ _ _ => trivial
  exact brings_bind closes fun _ => brings_pure fun _ _ _ _ => trivial

/-- What a client itself makes of a call, unless it is asked for a database. -/
theorem answer_brings {name : String} (args : List Value) (kwargs : Document)
    (other : ¬ (name = "get_database" ∨ name = "get_default_database")) :
    Brings (fun w w' o => (Handle.client c).Delivers command w w' o.handle?)
      (c.answer name args kwargs) := by
  have quiet (w : World) : (Handle.client c).Delivers command w w none :=
    (Handle.client c).delivers_none command w w
  unfold answer
  rw [if_neg fun named => other (.inl named), if_neg fun named => other (.inr named)]
  split
  · exact brings_fail _
  · split
    · refine brings_bind c.close_retaining fun _ => brings_pure fun v w _ _ => ?_
      exact (Handle.client c).delivers_none command w v
    · split
      · exact brings_pure quiet
      · exact brings_fail _

/-- Whatever is asked of a client that is not asked for a database. -/
theorem own_brings {t : Action Result} (known : c.own? command = some t)
    (other : ¬ command.AsksForDatabase) :
    Brings (fun w w' r => (Handle.client c).Delivers command w w' r.handle?) t := by
  have maker : (Handle.client c).gateway? = some c.gateway := rfl
  cases command <;> simp only [own?, Option.some.injEq, reduceCtorEq] at known <;> subst known
  case getDatabase | get | member | defaultDatabase => exact absurd trivial other
  case invoke call into =>
    have answer := c.answer_brings (.invoke call into) call.args call.kwargs other
    refine brings_return (c.gateway.invoke_brings _ maker _ _ _ answer) ?_
    exact fun _ _ _ h => h.ofOutcome into
  case listDatabases filter =>
    exact brings_handle (c.gateway.cursor_brings _ _ _) fun _ _ _ h => h.issues _ maker
  case listDatabaseNames =>
    exact brings_plain (retaining_read (c.gateway.value_retaining _ _ _)) fun _ => rfl
  case dropDatabase name =>
    refine brings_done_after ?_
    unfold dropDatabase
    split
    · exact brings_fail _
    · refine brings_bind (c.gateway.forward_retaining _ _ _) fun _ => ?_
      exact brings_pure fun _ _ _ _ => trivial
  case serverInfo =>
    exact brings_plain (retaining_read (c.gateway.value_retaining _ _ _)) fun _ => rfl
  case watch pipeline =>
    exact brings_handle (c.gateway.stream_brings _ _ _) fun _ _ _ h => h.issues _ maker
  case startSession => exact brings_fail _
  case topology => exact brings_pure fun w => Handle.delivers_none _ _ w w
  case close => exact brings_done_after c.close_retaining
  case isClosed => exact brings_plain (retaining_look _) fun _ => rfl
  case settings => exact brings_pure fun w => Handle.delivers_none _ _ w w
  case clone => exact brings_pure fun w => (Handle.Issues.again rfl).delivers
  case newClient setup =>
    refine brings_bind brings_fresh fun serial => ?_
    have made : Brings (fun v w' c' => setup.client serial = .ok c' ∧ v.next ≤ w'.next)
        (ofExcept (setup.client serial)) :=
      brings_ofExcept fun w c' made => ⟨made, Nat.le_refl _⟩
    refine brings_return made fun v w' c' wrought w retains gave => ?_
    obtain ⟨made, le⟩ := wrought
    have number := Setup.number_of_client made
    refine Handle.Issues.delivers (.client c c' setup rfl rfl ?_ ?_)
    · rw [number]
      exact made
    · rw [number]
      exact gave.within (Nat.le_refl _) le

end Client

/-! ## Databases -/

namespace Database

variable (d : Database) (command : Command)

/-- The client that a database brings is the one that made it. -/
theorem client_brings : Brings (fun _ _ c => c = d.owner) d.client := by
  refine brings_bind (retaining_look _) fun dropped => ?_
  split
  · exact brings_fail _
  · exact brings_pure fun _ _ _ _ => rfl

/-- A collection of a database, by its name. -/
theorem getCollection_brings (name : String) :
    Brings (fun _ _ c => ∃ name, c = ⟨d, name⟩) (ofExcept (d.getCollection name)) := by
  refine brings_ofExcept fun w c found => ?_
  unfold getCollection at found
  split at found <;> cases found
  exact ⟨name, rfl⟩

/-- An attribute of a database is a collection of it. -/
theorem attr_brings (name : String) :
    Brings (fun _ _ c => ∃ name, c = ⟨d, name⟩) (ofExcept (d.attr name)) := by
  unfold attr
  split
  · exact brings_fail _
  · exact d.getCollection_brings name

/-- A database may bring its collections. -/
theorem issues_collection {w w' : World} {c : Collection} (mine : ∃ name, c = ⟨d, name⟩) :
    (Handle.database d).Issues command w w' (.collection c) := by
  obtain ⟨name, rfl⟩ := mine
  exact .collection d name rfl

/-- A database may bring its client. -/
theorem issues_owner {w w' : World} {c : Client} (mine : c = d.owner) :
    (Handle.database d).Issues command w w' (.client c) := by
  rw [mine]
  exact .owner d rfl

/-- What a database itself makes of a call. -/
theorem answer_brings (name : String) (args : List Value) (kwargs : Document) :
    Brings (fun w w' o => (Handle.database d).Delivers command w w' o.handle?)
      (d.answer name args kwargs) := by
  have quiet (w : World) : (Handle.database d).Delivers command w w none :=
    (Handle.database d).delivers_none command w w
  unfold answer
  split
  · exact brings_pure quiet
  · split
    · exact brings_return d.client_brings fun _ _ _ h => (d.issues_owner command h).delivers
    · split
      · refine brings_bind (retaining_ofExcept _) fun collection => ?_
        refine brings_return (d.getCollection_brings _) fun _ _ c mine _ _ _ => ?_
        exact (d.issues_collection command mine).delivers
      · split
        · exact brings_pure fun w => (Handle.Issues.again rfl).delivers
        · split
          · exact brings_pure quiet
          · exact brings_fail _

/-- Whatever is asked of a database. -/
theorem own_brings {t : Action Result} (known : d.own? command = some t) :
    Brings (fun w w' r => (Handle.database d).Delivers command w w' r.handle?) t := by
  have maker : (Handle.database d).gateway? = some d.gateway := rfl
  cases command <;> simp only [own?, Option.some.injEq, reduceCtorEq] at known <;> subst known
  case invoke call into =>
    have answer := d.answer_brings (.invoke call into) call.name call.args call.kwargs
    refine brings_return (d.gateway.invoke_brings _ maker _ _ _ answer) ?_
    exact fun _ _ _ h => h.ofOutcome into
  case name => exact brings_pure fun w => Handle.delivers_none _ _ w w
  case describe => exact brings_pure fun w => Handle.delivers_none _ _ w w
  case client => exact brings_handle d.client_brings fun _ _ _ h => d.issues_owner _ h
  case getCollection name =>
    exact brings_handle (d.getCollection_brings name) fun _ _ _ h => d.issues_collection _ h
  case member name =>
    exact brings_handle (d.attr_brings name) fun _ _ _ h => d.issues_collection _ h
  case listCollections filter =>
    exact brings_handle (d.gateway.cursor_brings _ _ _) fun _ _ _ h => h.issues _ maker
  case listCollectionNames filter =>
    exact brings_plain (retaining_read (d.gateway.value_retaining _ _ _)) fun _ => rfl
  case command command =>
    exact brings_plain (retaining_read (d.gateway.value_retaining _ _ _)) fun _ => rfl
  case createCollection name =>
    have made : Brings (fun _ _ c => ∃ name, c = ⟨d, name⟩) (d.createCollection name) := by
      refine brings_bind (d.getCollection_brings name) fun c => ?_
      refine brings_bind (d.gateway.forward_retaining _ _ _) fun _ => ?_
      exact brings_pure fun _ _ _ _ _ _ mine => mine
    exact brings_handle made fun _ _ _ h => d.issues_collection _ h
  case aggregate pipeline =>
    exact brings_handle (d.gateway.cursor_brings _ _ _) fun _ _ _ h => h.issues _ maker
  case watch pipeline =>
    exact brings_handle (d.gateway.stream_brings _ _ _) fun _ _ _ h => h.issues _ maker
  case dropCollection name =>
    refine brings_done_after ?_
    unfold dropCollection
    split
    · exact brings_fail _
    · refine brings_bind (d.gateway.forward_retaining _ _ _) fun _ => ?_
      exact brings_pure fun _ _ _ _ => trivial

end Database

/-! ## Collections -/

namespace Collection

variable (c : Collection) (command : Command)

/-- A call that reads its reply brings no handle and enters no database. -/
theorem result_retaining (operation : String) (args : List Value) (kwargs : Document) :
    Retaining (c.result operation args kwargs) :=
  retaining_read (c.gateway.value_retaining operation args kwargs)

/-- A search brings a cursor with a new number. -/
theorem find_brings (filter : Option Document) (options : FindOptions) :
    Brings c.gateway.Opened (c.find filter options) := by
  refine brings_bind (retaining_ofExcept _) fun kwargs => ?_
  refine (c.gateway.cursor_brings _ _ _).mono fun v w' c opened w retains _ => ?_
  exact opened.within retains

/-- An update enters no database. -/
theorem update_retaining (operation : String) (filter update : Document)
    (options : UpdateOptions) : Retaining (c.update operation filter update options) :=
  retaining_read (c.result_retaining _ _ _)

/-- A deletion enters no database. -/
theorem delete_retaining (operation : String) (filter : Document) :
    Retaining (c.delete operation filter) :=
  retaining_read (c.result_retaining _ _ _)

/-- What a collection itself makes of a call. -/
theorem answer_brings (name : String) :
    Brings (fun w w' o => (Handle.collection c).Delivers command w w' o.handle?)
      (c.answer name) := by
  have quiet (w : World) : (Handle.collection c).Delivers command w w none :=
    (Handle.collection c).delivers_none command w w
  unfold answer
  split
  · exact brings_pure quiet
  · split
    · exact brings_pure quiet
    · split
      · exact brings_pure fun w => (Handle.Issues.parent c rfl).delivers
      · split
        · exact brings_pure fun w => (Handle.Issues.again rfl).delivers
        · split
          · exact brings_pure quiet
          · exact brings_fail _

/-- Whatever is asked of a collection. -/
theorem own_brings {t : Action Result} (known : c.own? command = some t) :
    Brings (fun w w' r => (Handle.collection c).Delivers command w w' r.handle?) t := by
  have maker : (Handle.collection c).gateway? = some c.gateway := rfl
  have worded {α β : Type} {t : Action α} (f : α → β) (first : Retaining t) :
      Retaining (do return f (← t)) := brings_return first fun _ _ _ _ => trivial
  cases command <;> simp only [own?, Option.some.injEq, reduceCtorEq] at known <;> subst known
  case invoke call into =>
    have answer := c.answer_brings (.invoke call into) call.name
    refine brings_return (c.gateway.invoke_brings _ maker _ _ _ answer) ?_
    exact fun _ _ _ h => h.ofOutcome into
  case name => exact brings_pure fun w => Handle.delivers_none _ _ w w
  case fullName => exact brings_pure fun w => Handle.delivers_none _ _ w w
  case describe => exact brings_pure fun w => Handle.delivers_none _ _ w w
  case database => exact brings_pure fun w => (Handle.Issues.parent c rfl).delivers
  case insertOne document =>
    exact brings_plain (worded _ (c.result_retaining _ _ _)) fun _ => rfl
  case insertMany documents =>
    exact brings_plain (worded _ (c.result_retaining _ _ _)) fun _ => rfl
  case find filter options =>
    exact brings_handle (c.find_brings filter _) fun _ _ _ h => h.issues _ maker
  case findOne filter =>
    exact brings_plain (retaining_read (c.gateway.value_retaining _ _ _)) fun _ => rfl
  case updateOne filter update options =>
    exact brings_plain (c.update_retaining _ _ _ _) fun _ => rfl
  case updateMany filter update options =>
    exact brings_plain (c.update_retaining _ _ _ _) fun _ => rfl
  case replaceOne filter replacement =>
    exact brings_plain (c.update_retaining _ _ _ _) fun _ => rfl
  case deleteOne filter => exact brings_plain (c.delete_retaining _ _) fun _ => rfl
  case deleteMany filter => exact brings_plain (c.delete_retaining _ _) fun _ => rfl
  case countDocuments filter =>
    exact brings_plain (retaining_read (c.gateway.value_retaining _ _ _)) fun _ => rfl
  case estimatedDocumentCount =>
    exact brings_plain (retaining_read (c.gateway.value_retaining _ _ _)) fun _ => rfl
  case distinct key filter =>
    exact brings_plain (retaining_read (c.gateway.value_retaining _ _ _)) fun _ => rfl
  case aggregate pipeline =>
    exact brings_handle (c.gateway.cursor_brings _ _ _) fun _ _ _ h => h.issues _ maker
  case watch pipeline =>
    exact brings_handle (c.gateway.stream_brings _ _ _) fun _ _ _ h => h.issues _ maker
  case createIndex keys =>
    exact brings_plain (retaining_read (c.gateway.value_retaining _ _ _)) fun _ => rfl
  case dropIndex name =>
    exact brings_done_after (worded _ (c.gateway.value_retaining _ _ _))
  case listIndexes =>
    exact brings_handle (c.gateway.cursor_brings _ _ _) fun _ _ _ h => h.issues _ maker
  case drop => exact brings_done_after (worded _ (c.gateway.value_retaining _ _ _))

end Collection

/-! ## Asking for databases -/

/-- The database with a key has this number; it was in the world before, or has been entered. -/
inductive World.Files (w : World) (key : Nat × String) (serial : Nat) (w' : World) : Prop
  /-- It has been asked for before. -/
  | known (found : w.databases.lookup key = some serial) (same : w' = w)
  /-- It is asked for the first time. -/
  | entered (missing : w.databases.lookup key = none) (number : serial = w.next)
      (same : w' = { w with databases := w.databases ++ [(key, serial)], next := w.next + 1 })

/-- The database is in the world afterwards. -/
theorem World.Files.lookup {w w' : World} {key : Nat × String} {serial : Nat}
    (files : w.Files key serial w') : w'.databases.lookup key = some serial := by
  cases files with
  | known found same =>
    rw [same]
    exact found
  | entered missing number same =>
    rw [same]
    show (w.databases ++ [(key, serial)]).lookup key = some serial
    rw [List.lookup_append, missing]
    simp

/-- What a command that asks for a database tells of it. -/
def Command.told (d : Database) : Command → Result
  | .invoke _ into => .ofOutcome (.database d) into
  | _ => .handle (.database d)

namespace Client

/-- A command to a client stands for the database of this name. -/
def Resolves (c : Client) (command : Command) (wanted : String) : Prop :=
  wanted ≠ "" ∧ match command with
    | .getDatabase name => name = some wanted
    | .get name => name = wanted
    | .member name => name = wanted ∧ isPrivate name = false
    | .defaultDatabase => c.options.defaultDatabase = some wanted
    | .invoke call _ => Shape.client.Fits call
        ∧ (call.name = "get_database"
            ∧ textArgument call.name call.args call.kwargs "name" = .ok (some wanted)
          ∨ call.name = "get_default_database" ∧ ∃ fallback,
            textArgument call.name call.args call.kwargs "default" = .ok fallback
            ∧ c.options.defaultDatabase.or fallback = some wanted)
    | _ => False

/-- A computation looks for the database of the one name that `P` is true of, and is misuse where
there is none. -/
inductive Seeks {α : Type} (c : Client) (P : String → Prop) (f : Database → α) (t : Action α) :
    Prop
  /-- The database is looked up or entered. -/
  | finds (wanted : String) (only : ∀ name, P name ↔ name = wanted)
      (same : t = do return f (← c.cached wanted))
  /-- No database is meant. -/
  | refuses (err : Error) (same : t = Action.fail err) (misuse : err.IsMisuse)
      (none : ∀ name, ¬ P name)

variable {α β : Type} {c : Client} {P P' : String → Prop} {f : Database → α} {t : Action α}

/-- A result that is put into other words. -/
theorem Seeks.return (seeks : c.Seeks P f t) (g : α → β) :
    c.Seeks P (fun d => g (f d)) (do return g (← t)) := by
  cases seeks with
  | finds wanted only same =>
    refine .finds wanted only ?_
    rw [same, bind_assoc]
    rfl
  | refuses err same misuse none => exact .refuses err (by rw [same]; rfl) misuse none

/-- The database that is looked for may be told of in other words. -/
theorem Seeks.congr (seeks : c.Seeks P f t) (iff : ∀ name, P name ↔ P' name) : c.Seeks P' f t := by
  cases seeks with
  | finds wanted only same =>
    exact .finds wanted (fun name => (iff name).symm.trans (only name)) same
  | refuses err same misuse none =>
    exact .refuses err same misuse fun name => none name ∘ (iff name).mpr

variable (c)

/-- Asking by name is looking for the database of that name, unless it is empty or missing. -/
theorem getDatabase_seeks (name : Option String) :
    c.Seeks (fun wanted => wanted ≠ "" ∧ name = some wanted) id (c.getDatabase name) := by
  unfold getDatabase
  split
  · next name =>
    split
    · next empty =>
      refine .refuses _ rfl rfl ?_
      rintro wanted ⟨nonempty, same⟩
      cases same
      exact nonempty empty
    · next nonempty =>
      refine .finds name (fun wanted => ⟨?_, ?_⟩) (bind_pure _).symm
      · rintro ⟨_, same⟩
        exact (Option.some.inj same).symm
      · rintro rfl
        exact ⟨nonempty, rfl⟩
  · refine .refuses _ rfl rfl ?_
    rintro wanted ⟨_, same⟩
    cases same

/-- An attribute is the database of its name, unless the name is empty or private. -/
theorem attr_seeks (name : String) :
    c.Seeks (fun wanted => wanted ≠ "" ∧ name = wanted ∧ isPrivate name = false) id
      (c.attr name) := by
  unfold attr
  split
  · next hidden =>
    refine .refuses _ rfl rfl ?_
    rintro wanted ⟨_, _, visible⟩
    rw [hidden] at visible
    cases visible
  · next visible =>
    simp only [Bool.not_eq_true] at visible
    refine (c.getDatabase_seeks (some name)).congr fun wanted => ?_
    rw [Option.some.injEq, and_iff_left visible]

/-- The default database is that of the options, or else the fallback that is given. -/
theorem defaultDatabase_seeks (fallback : Option String) :
    c.Seeks (fun wanted => wanted ≠ "" ∧ c.options.defaultDatabase.or fallback = some wanted) id
      (c.defaultDatabase fallback) := by
  unfold defaultDatabase
  split
  · next name resolved =>
    refine (c.getDatabase_seeks (some name)).congr fun wanted => ?_
    rw [resolved]
  · next unresolved =>
    refine .refuses _ rfl rfl ?_
    rintro wanted ⟨_, same⟩
    rw [unresolved] at same
    cases same

/-- What a client itself makes of a call that asks for a database by its name. -/
theorem answer_seeks_database (args : List Value) (kwargs : Document) :
    c.Seeks (fun wanted => wanted ≠ ""
        ∧ textArgument "get_database" args kwargs "name" = .ok (some wanted)) Outcome.database
      (c.answer "get_database" args kwargs) := by
  unfold answer
  rw [if_pos rfl]
  rcases given : textArgument "get_database" args kwargs "name" with err | name
  · refine .refuses err rfl (isMisuse_of_textArgument given) ?_
    rintro wanted ⟨_, same⟩
    cases same
  · refine ((c.getDatabase_seeks name).return Outcome.database).congr fun wanted => ?_
    rw [Except.ok.injEq]

/-- What a client itself makes of a call that asks for the default database. -/
theorem answer_seeks_default (args : List Value) (kwargs : Document) :
    c.Seeks (fun wanted => wanted ≠ "" ∧ ∃ fallback,
        textArgument "get_default_database" args kwargs "default" = .ok fallback
        ∧ c.options.defaultDatabase.or fallback = some wanted) Outcome.database
      (c.answer "get_default_database" args kwargs) := by
  unfold answer
  rw [if_neg (by decide), if_pos rfl]
  rcases given : textArgument "get_default_database" args kwargs "default" with err | fallback
  · refine .refuses err rfl (isMisuse_of_textArgument given) ?_
    rintro wanted ⟨_, _, same, _⟩
    cases same
  · refine ((c.defaultDatabase_seeks fallback).return Outcome.database).congr fun wanted => ?_
    refine and_congr_right fun _ => ⟨fun resolved => ⟨fallback, rfl, resolved⟩, ?_⟩
    rintro ⟨_, ⟨rfl⟩, resolved⟩
    exact resolved

/-- A call by name that the client answers itself asks where its arguments fit. -/
theorem invoke_seeks {name : String} {args : List Value} {kwargs : Document}
    (own : name ∈ localOperations) (mirrored : ∃ signature, Shape.client.Mirrors name signature)
    {P : String → Prop} (answers : c.Seeks P Outcome.database (c.answer name args kwargs)) :
    c.Seeks (fun wanted => Shape.client.Fits ⟨name, args, kwargs⟩ ∧ P wanted) Outcome.database
      (c.invoke name args kwargs) := by
  unfold invoke Gateway.invoke
  have own : (Call.mk name args kwargs).name ∈ localOperations := own
  rcases Gateway.resolve_of_mem c.serves own
    with ⟨handled, bound⟩ | ⟨message, refused, misfits⟩
  · have fits : Shape.client.Fits ⟨name, args, kwargs⟩ := by
      obtain ⟨signature, mirrors⟩ := mirrored
      exact ⟨signature, mirrors, bound signature mirrors⟩
    have handled : c.gateway.resolve name args kwargs = .ok .handle := handled
    rw [handled]
    refine answers.congr fun wanted => ?_
    rw [and_iff_right fits]
  · have refused : c.gateway.resolve name args kwargs = .error (.usage name message) := refused
    rw [refused]
    refine .refuses _ rfl rfl ?_
    rintro wanted ⟨fits, _⟩
    exact misfits fits

/-- The operations that ask for a database are mirrored. -/
theorem asking_mirrored {name : String}
    (asks : name = "get_database" ∨ name = "get_default_database") :
    ∃ signature, Shape.client.Mirrors name signature := by
  have taken : [("get_database", [((0, []) : Shape.Form)]), ("get_default_database", [(0, [])])].all
      (Shape.takes Shape.client.spelled) = true := by
    unfold Shape.spelled Shape.client
    simp only [Shape.method, Shape.property, Shape.undocumented, List.map_cons, List.map_nil,
      String.toList_append]
    repeat rw [String.toList_ofList]
    decide +kernel
  have fits : Shape.client.Fits ⟨name, [], []⟩ := by
    rcases asks with rfl | rfl
    · exact Shape.fits_of_row taken _ (.head _) rfl (.head _)
    · exact Shape.fits_of_row taken _ (.tail _ (.head _)) rfl (.head _)
  obtain ⟨signature, mirrors, _⟩ := fits
  exact ⟨signature, mirrors⟩

/-- A command that asks a client for a database looks for the one that it stands for. -/
theorem own_seeks {command : Command} (asks : command.AsksForDatabase) :
    ∃ t, c.own? command = some t ∧ c.Seeks (c.Resolves command) command.told t := by
  cases command <;> try exact asks.elim
  case getDatabase name =>
    exact ⟨_, rfl, (c.getDatabase_seeks name).return fun d => Result.handle (.database d)⟩
  case get name =>
    have seeks := (c.getDatabase_seeks (some name)).return fun d => Result.handle (.database d)
    refine ⟨_, rfl, seeks.congr fun wanted => ?_⟩
    rw [Option.some.injEq]
    rfl
  case member name =>
    exact ⟨_, rfl, (c.attr_seeks name).return fun d => Result.handle (.database d)⟩
  case defaultDatabase =>
    have seeks := (c.defaultDatabase_seeks none).return fun d => Result.handle (.database d)
    refine ⟨_, rfl, seeks.congr fun wanted => ?_⟩
    rw [Option.or_none]
    rfl
  case invoke call into =>
    obtain ⟨name, args, kwargs⟩ := call
    refine ⟨_, rfl, ?_⟩
    have mirrored := asking_mirrored asks
    rcases asks with rfl | rfl
    · have own : "get_database" ∈ localOperations := by decide
      have seeks := c.invoke_seeks own mirrored (c.answer_seeks_database args kwargs)
      refine (seeks.return fun o => Result.ofOutcome o into).congr fun wanted => ?_
      unfold Resolves
      dsimp only
      rw [and_left_comm]
      refine and_congr_right fun _ => and_congr_right fun _ => ⟨fun given => .inl ⟨rfl, given⟩, ?_⟩
      rintro (⟨_, given⟩ | ⟨other, _⟩)
      · exact given
      · exact absurd other (by decide)
    · have own : "get_default_database" ∈ localOperations := by decide
      have seeks := c.invoke_seeks own mirrored (c.answer_seeks_default args kwargs)
      refine (seeks.return fun o => Result.ofOutcome o into).congr fun wanted => ?_
      unfold Resolves
      dsimp only
      rw [and_left_comm]
      refine and_congr_right fun _ => and_congr_right fun _ => ⟨fun given => .inr ⟨rfl, given⟩, ?_⟩
      rintro (⟨other, _⟩ | ⟨_, given⟩)
      · exact absurd other (by decide)
      · exact given

/-- What comes of a command that asks a client for a database: the database that it stands for, or a
refusal that changes nothing. -/
inductive Sought (c : Client) (command : Command) (w : World) :
    Except Halt Result × Option Handle × World → Prop
  /-- The database. -/
  | found (wanted : String) (serial : Nat) (w' : World)
      (only : ∀ name, c.Resolves command name ↔ name = wanted)
      (files : w.Files (c.databaseKey wanted) serial w') :
      Sought c command w (.ok (command.told ⟨c, wanted, serial⟩), some (.client c), w')
  /-- A refusal. -/
  | refused (err : Error) (misuse : err.IsMisuse) (none : ∀ name, ¬ c.Resolves command name) :
      Sought c command w (.error (.failed err), some (.client c), w)

/-- A name has its database at once, known from before or entered now. -/
theorem cached_files (name : String) (limits : Limits) (w : World) :
    ∃ serial w', c.cached name limits w = (.ok ⟨c, name, serial⟩, w')
      ∧ w.Files (c.databaseKey name) serial w' := by
  unfold cached
  rcases found : w.databases.lookup (c.databaseKey name) with _ | serial
  · exact ⟨_, _, rfl, .entered found rfl rfl⟩
  · exact ⟨serial, w, rfl, .known found rfl⟩

/-- A client has an answer to each command that asks for a database. -/
theorem service_sought {command : Command} (asks : command.AsksForDatabase) :
    ∃ service, (Handle.client c).service? command = some service
      ∧ ∀ limits w, c.Sought command w (service limits w) := by
  obtain ⟨t, known, seeks⟩ := c.own_seeks asks
  have served : (Handle.client c).service? command = some ((Handle.client c).steady t) := by
    have own : (Handle.client c).own? command = some ((Handle.client c).steady t) := by
      show (c.own? command).map (Handle.client c).steady = _
      rw [known]
      rfl
    rw [← own]
    cases command <;> first | rfl | exact asks.elim
  refine ⟨_, served, fun limits w => ?_⟩
  unfold Handle.steady
  cases seeks with
  | finds wanted only same =>
    obtain ⟨serial, w', found, files⟩ := c.cached_files wanted limits w
    rw [same, bind_eq_resumed, found]
    exact .found wanted serial w' only files
  | refuses err same misuse none =>
    rw [same]
    exact .refused err misuse none

end Client

/-! ## Cursors and change streams -/

/-- Using a cursor enters no database. -/
theorem Cursor.Pursues.retains {deadline : Nat} {c c' : Cursor} {w w' : World}
    (pursues : c.Pursues deadline w c' w') : Retains w w' := by
  obtain ⟨es, sends, _⟩ := pursues
  exact sends.retains

/-- Using a change stream enters no database. -/
theorem ChangeStream.Attends.retains {deadline : Nat → Nat} {s s' : ChangeStream} {w w' : World}
    (attends : s.Attends deadline w s' w') : Retains w w' := by
  obtain ⟨v, es, begun, sends, _⟩ := attends
  rcases begun with rfl | rfl
  · exact sends.retains
  · exact (w.retains_fire s.serial).trans sends.retains

/-! ## All handles -/

/-- The handle that a command brings if it does not fail. -/
def brought? (r : Except Halt Result) : Option Handle := r.toOption.bind Result.handle?

/-- A handle is brought where a result is told that holds it. -/
theorem brought?_eq_some {r : Except Halt Result} {h : Handle} :
    brought? r = some h ↔ ∃ told, r = .ok told ∧ told.handle? = some h := by
  cases r with
  | error halt => simp [brought?, Except.toOption]
  | ok told => simp [brought?, Except.toOption]

/-- A handle is asked for a database. -/
def Handle.AsksForDatabase : Handle → Command → Prop
  | client _, command => command.AsksForDatabase
  | _, _ => False

/-- What a command to a handle can bring and do to the world, and what the handle can become. -/
structure Handle.Provides (h : Handle) (command : Command) (w : World)
    (brought became : Option Handle) (w' : World) : Prop where
  /-- Numbers are not taken back. -/
  next_le : w.next ≤ w'.next
  /-- Nothing else is brought. -/
  delivers : h.Delivers command w w' brought
  /-- The handle stays the one that it is. -/
  becomes : ∀ h', became = some h' → h.Becomes h'
  /-- A database is entered only where one is asked for. -/
  retains : ¬ h.AsksForDatabase command → Retains w w'

namespace Handle

variable {h : Handle} {command : Command} {service : Service} {limits : Limits} {w : World}

/-- A computation that enters no database, on a handle that stays what it is. -/
theorem provides_steady {t : Action Result}
    (brings : Brings (fun w w' r => h.Delivers command w w' r.handle?) t) (limits : Limits)
    (w : World) : h.Provides command w (brought? (h.steady t limits w).1)
      (h.steady t limits w).2.1 (h.steady t limits w).2.2 := by
  obtain ⟨retains, holds⟩ := brings limits w
  refine ⟨retains.next_le, ?_, ?_, fun _ => retains⟩
  · intro h' brought
    obtain ⟨told, came, holder⟩ := brought?_eq_some.mp brought
    exact holds told came h' holder
  · rintro _ ⟨⟩
    exact h.becomes_self

/-- What a close signal makes of the commands that it knows. -/
theorem signalled_brings {subscription : Nat} {t : Action Result}
    (known : signalled subscription command = some t) :
    Brings (fun w w' r => (closeSignal subscription).Delivers command w w' r.handle?) t := by
  cases command <;> cases known
  case close => exact brings_plain (retaining_change fun w => w.retains_fire _) fun _ => rfl
  case isClosed => exact brings_plain (retaining_look _) fun _ => rfl

/-- What only some handles know, but for asking for databases. -/
theorem own_provides (known : h.own? command = some service) (other : ¬ h.AsksForDatabase command)
    (limits : Limits) (w : World) : h.Provides command w (brought? (service limits w).1)
      (service limits w).2.1 (service limits w).2.2 := by
  cases h with
  | client c =>
    obtain ⟨t, ht, rfl⟩ := Option.map_eq_some_iff.mp known
    exact provides_steady (c.own_brings command ht other) limits w
  | database d =>
    obtain ⟨t, ht, rfl⟩ := Option.map_eq_some_iff.mp known
    exact provides_steady (d.own_brings command ht) limits w
  | collection c =>
    obtain ⟨t, ht, rfl⟩ := Option.map_eq_some_iff.mp known
    exact provides_steady (c.own_brings command ht) limits w
  | closeSignal subscription =>
    obtain ⟨t, ht, rfl⟩ := Option.map_eq_some_iff.mp known
    exact provides_steady (signalled_brings ht) limits w
  | cursor c =>
    obtain ⟨c', pursues, became, plain⟩ := c.own_pursues limits w known
    obtain ⟨es, sends, follows⟩ := pursues
    refine ⟨sends.retains.next_le, ?_, ?_, fun _ => sends.retains⟩
    · intro h' brought
      obtain ⟨told, came, holds⟩ := brought?_eq_some.mp brought
      rw [plain told came] at holds
      cases holds
    · intro h' same
      rw [became h' same]
      exact ⟨follows.connection, follows.origin, follows.serial⟩
  | changeStream s =>
    obtain ⟨s', attends, became, plain⟩ := s.own_attends limits w known
    refine ⟨attends.retains.next_le, ?_, ?_, fun _ => attends.retains⟩
    · intro h' brought
      obtain ⟨told, came, holds⟩ := brought?_eq_some.mp brought
      rw [plain told h' came holds]
      exact .signal s rfl
    · obtain ⟨_, _, _, _, follows⟩ := attends
      intro h' same
      rw [became h' same]
      exact ⟨follows.connection, follows.origin, follows.serial⟩

/-- Whatever is asked of a client that is asked for a database. -/
theorem provides_of_sought {c : Client} {out : Except Halt Result × Option Handle × World}
    (asks : command.AsksForDatabase) (sought : c.Sought command w out) :
    (client c).Provides command w (brought? out.1) out.2.1 out.2.2 := by
  cases sought with
  | found wanted serial w' only files =>
    refine ⟨?_, ?_, ?_, fun other => absurd asks other⟩
    · cases files with
      | known found same => exact Nat.le_of_eq (congrArg World.next same.symm)
      | entered missing number same =>
        rw [same]
        exact Nat.le_succ _
    · intro h' brought
      obtain ⟨told, came, holds⟩ := brought?_eq_some.mp brought
      have issues : (client c).Issues command w w' (.database ⟨c, wanted, serial⟩) :=
        .database c wanted serial rfl files.lookup
      have delivers : (client c).Delivers command w w'
          (command.told ⟨c, wanted, serial⟩).handle? := by
        cases command <;> try exact issues.delivers
        case invoke call into =>
          have plain : (client c).Delivers (.invoke call into) w w'
            (Outcome.database ⟨c, wanted, serial⟩).handle? := issues.delivers
          exact plain.ofOutcome into
      cases came
      exact delivers h' holds
    · rintro _ ⟨⟩
      exact (client c).becomes_self
  | refused err misuse none =>
    refine ⟨Nat.le_refl _, ?_, ?_, fun _ => .refl w⟩
    · intro h' brought
      obtain ⟨told, came, _⟩ := brought?_eq_some.mp brought
      cases came
    · rintro _ ⟨⟩
      exact (client c).becomes_self

/-- Whatever is asked of whatever handle. -/
theorem service_provides (known : h.service? command = some service) (limits : Limits)
    (w : World) : h.Provides command w (brought? (service limits w).1) (service limits w).2.1
      (service limits w).2.2 := by
  by_cases asks : h.AsksForDatabase command
  · cases h with
    | client c =>
      obtain ⟨service', served, sought⟩ := c.service_sought asks
      cases known.symm.trans served
      exact provides_of_sought asks (sought limits w)
    | database | collection | cursor | changeStream | closeSignal => exact asks.elim
  · unfold service? at known
    split at known
    · next t common =>
      cases known
      obtain ⟨g, maker, common⟩ := Option.bind_eq_some_iff.mp common
      exact provides_steady (g.common_brings command maker common) limits w
    · exact own_provides known asks limits w

end Handle

/-! ## Steps -/

namespace Session

/-- A close signal that fires, or is waited for, during a step enters no database. -/
theorem joined_retains (limits : Limits) (w : World) (r : Except Halt Result) :
    Retains w (joined limits w r).2 := by
  rcases joined_cases limits w r with same | ⟨subscription, time, _, same | same | same⟩ <;>
    rw [same]
  · exact .refl w
  · exact w.retains_fire subscription
  · exact (w.retains_fire subscription).trans (.of_eq rfl rfl)
  · exact .of_eq rfl rfl

/-- What comes of a step on a handle. -/
theorem serve_provides (s : Session) (st : Step) (h : Handle) :
    h.Provides st.command s.world (s.serve st h).1.handle? (s.serve st h).2.1
      (s.serve st h).2.2 := by
  rcases s.serving st h with ⟨v, became, plain, keeps, same⟩ | ⟨service, known, same⟩
  · rw [show s.serve st h = _ from same s.world]
    refine ⟨Nat.le_refl _, ?_, ?_, fun _ => .refl s.world⟩
    · dsimp only
      rw [plain]
      exact h.delivers_none _ _ _
    · rintro h' became
      rcases keeps with rfl | rfl
      · cases became
        exact h.becomes_self
      · cases became
  · rw [show s.serve st h = _ from same s.world]
    have provides := Handle.service_provides known (limits st h s.world) s.world
    have joins := joined_retains (limits st h s.world)
      (service (limits st h s.world) s.world).2.2 (service (limits st h s.world) s.world).1
    refine ⟨Nat.le_trans provides.next_le joins.next_le, ?_, provides.becomes, fun other => ?_⟩
    · intro h' brought
      have came := exists_of_handle?_conclude brought
      exact (provides.delivers h' (brought?_eq_some.mpr came)).within (Nat.le_refl _) joins
    · exact (provides.retains other).trans joins

/-! ## Steps of runs -/

/-- At some step of a run this holds of the session and the step. -/
def Sometime (P : Session → Step → Prop) (s : Session) (steps : List Step) : Prop :=
  ∃ before st after, steps = before ++ st :: after ∧ P (s.run before).2 st

/-- At every step of a run this holds of the session and the step. -/
def Always (P : Session → Step → Prop) (s : Session) (steps : List Step) : Prop :=
  ∀ before st after, steps = before ++ st :: after → P (s.run before).2 st

variable {P : Session → Step → Prop} {s : Session} {st : Step} {steps rest : List Step}

/-- In a run without steps nothing happens. -/
theorem not_sometime_nil (P : Session → Step → Prop) (s : Session) : ¬ Sometime P s [] := by
  rintro ⟨before, st, after, split, _⟩
  cases before <;> cases split

/-- Something happens at the first step or in the rest of the run. -/
theorem sometime_cons : Sometime P s (st :: rest) ↔ P s st ∨ Sometime P (s.step st).2 rest := by
  constructor
  · rintro ⟨before, st', after, split, holds⟩
    rcases before with _ | ⟨first, before⟩
    · cases split
      exact .inl holds
    · cases split
      exact .inr ⟨before, st', after, rfl, holds⟩
  · rintro (holds | ⟨before, st', after, rfl, holds⟩)
    · exact ⟨[], st, rest, rfl, holds⟩
    · exact ⟨st :: before, st', after, rfl, holds⟩

/-- A run without steps is as it should be. -/
theorem always_nil (P : Session → Step → Prop) (s : Session) : Always P s [] := by
  intro before st after split
  cases before <;> cases split

/-- A run is as it should be if its first step and the rest of it are. -/
theorem always_cons : Always P s (st :: rest) ↔ P s st ∧ Always P (s.step st).2 rest := by
  constructor
  · intro always
    refine ⟨always [] st rest rfl, fun before st' after split => ?_⟩
    exact always (st :: before) st' after (by rw [split]; rfl)
  · rintro ⟨first, later⟩ before st' after split
    rcases before with _ | ⟨first', before⟩
    · cases split
      exact first
    · cases split
      exact later before st' after rfl

/-- A run goes on from where an earlier one ended. -/
theorem run_append (s : Session) (before after : List Step) :
    (s.run (before ++ after)).2 = ((s.run before).2.run after).2 := by
  induction before generalizing s with
  | nil => rfl
  | cons st rest ih => exact ih (s.step st).2

end Session

end RemoteDriver
