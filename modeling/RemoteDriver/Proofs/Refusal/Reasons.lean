import RemoteDriver.Proofs.Surface.Mirrored
import RemoteDriver.Session.Service

/-!
# Reasons to refuse

Much is refused before the connection is asked: calls that do not fit what is mirrored, names that
are private or missing, arguments of the wrong type, sizes that are out of range, and sessions.
`Handle.Refuses` lists the reasons for each kind of handle, with the error that goes with each of
them.  It speaks of the operations that shapes mirror and of the arguments of calls, not of what
handles do.

How handles serve calls by name comes down to three cases (`Gateway.resolve_cases`), of which the
first one is a refusal (`Shape.Declines`).
-/

namespace RemoteDriver

open Bson (Document Value)

/-! ## Arguments of calls -/

namespace Call

/-- What a call gives for a parameter: its first argument by position, or the one of this name. -/
def argument? (call : Call) (key : String) : Option Value :=
  call.args.head?.or (call.kwargs.lookup key)

/-- A call names something by a parameter, with a text, or leaves it open; `null` leaves it open
too. -/
def Names (call : Call) (key : String) : Option String → Prop
  | some s => call.argument? key = some (.string s)
  | none => call.argument? key = none ∨ call.argument? key = some .null

/-- A call gives a value for a parameter that should name something, and it is no text. -/
structure Mistypes (call : Call) (key : String) (v : Value) : Prop where
  /-- The value is given. -/
  given : call.argument? key = some v
  /-- It does not leave the name open. -/
  present : v ≠ .null
  /-- It is no text. -/
  other : ∀ s, v ≠ .string s

/-- A call gives a whole number for the size of batches. -/
def Sizes (call : Call) (n : Int) : Prop :=
  (∃ i : Int32, call.argument? "batch_size" = some (.int32 i) ∧ i.toInt = n)
    ∨ ∃ i : Int64, call.argument? "batch_size" = some (.int64 i) ∧ i.toInt = n

end Call

/-- The error of an argument that should be a text. -/
def mistyped (operation key : String) (v : Value) : Error :=
  .usage operation ("`" ++ key ++ "` must be a string, got " ++ v.typeName)

section arguments

variable {call : Call} {key : String}

/-- A name that is given, or left out, is read as it is. -/
theorem textArgument_of_names {name : Option String} (names : call.Names key name) :
    textArgument call.name call.args call.kwargs key = .ok name := by
  unfold textArgument
  cases name with
  | some s =>
    rw [show call.args.head?.or (call.kwargs.lookup key) = _ from names]
  | none =>
    rcases names with absent | null
    · rw [show call.args.head?.or (call.kwargs.lookup key) = _ from absent]
    · rw [show call.args.head?.or (call.kwargs.lookup key) = _ from null]

/-- A name that is no text is refused with the type that it has. -/
theorem textArgument_of_mistypes {v : Value} (mistypes : call.Mistypes key v) :
    textArgument call.name call.args call.kwargs key = .error (mistyped call.name key v) := by
  unfold textArgument
  rw [show call.args.head?.or (call.kwargs.lookup key) = _ from mistypes.given]
  split
  · next absent => cases absent
  · next null => exact absurd (Option.some.inj null) mistypes.present
  · next s text => exact absurd (Option.some.inj text) (mistypes.other s)
  · next same =>
    cases same
    rfl

/-- A call names something by a parameter, or its argument is no text. -/
theorem Call.names_or_mistypes (call : Call) (key : String) :
    (∃ name, call.Names key name) ∨ ∃ v, call.Mistypes key v := by
  rcases given : call.argument? key with _ | v
  · exact .inl ⟨none, .inl given⟩
  · by_cases null : v = .null
    · exact .inl ⟨none, .inr (null ▸ given)⟩
    · by_cases text : ∃ s, v = .string s
      · obtain ⟨s, rfl⟩ := text
        exact .inl ⟨some s, given⟩
      · exact .inr ⟨v, given, null, fun s same => text ⟨s, same⟩⟩

/-- The size that a cursor takes from a call is a number of 32 bits without a sign. -/
theorem Cursor.sizeArgument_eq_none (call : Call) :
    sizeArgument call.args call.kwargs = none ↔ ∀ n : Nat, n ≤ 4294967295 → ¬ call.Sizes n := by
  have small (i : Int32) : i.toInt < 2147483648 := i.toInt_lt
  unfold sizeArgument Call.Sizes Call.argument? Number.maxUInt32
  generalize call.args.head?.or (call.kwargs.lookup "batch_size") = given
  split
  · next i =>
    constructor
    · intro absent n le sized
      rcases sized with ⟨_, ⟨⟩, same⟩ | ⟨_, ⟨⟩, _⟩
      rw [if_pos (by omega)] at absent
      cases absent
    · intro absent
      refine if_neg fun positive => absent i.toInt.toNat ?_ (.inl ⟨i, rfl, ?_⟩)
      · have := small i
        omega
      · omega
  · next i =>
    constructor
    · intro absent n le sized
      rcases sized with ⟨_, ⟨⟩, _⟩ | ⟨_, ⟨⟩, same⟩
      rw [if_pos (by omega)] at absent
      cases absent
    · intro absent
      refine if_neg fun inside => absent i.toInt.toNat ?_ (.inr ⟨i, rfl, ?_⟩)
      · omega
      · omega
  · next no32 no64 =>
    refine ⟨fun _ n _ sized => ?_, fun _ => rfl⟩
    rcases sized with ⟨i, same, _⟩ | ⟨i, same, _⟩
    · exact no32 i same
    · exact no64 i same

end arguments

/-! ## Calls that do not fit -/

namespace Shape

/-- A call does not fit an operation that a shape mirrors, and this is the error. -/
inductive Misfits (shape : Shape) (call : Call) : Error → Prop
  /-- There is no operation of its name. -/
  | unknown (absent : ∀ signature, ¬ shape.Mirrors call.name signature) :
      Misfits shape call
        (.usage call.name (shape.typeName ++ " has no operation `" ++ call.name ++ "`"))
  /-- Its arguments do not fit the signature. -/
  | unbound {signature : Signature} {fault : Signature.BindFault}
      (mirrors : shape.Mirrors call.name signature)
      (faulty : signature.bindFault? call.args.length (call.kwargs.map (·.1)) = some fault) :
      Misfits shape call (.usage call.name (fault.message signature))

/-- A call by name is declined by a handle that answers some names itself, and this is the error. -/
inductive Declines (shape : Shape) (overrides : List String) (call : Call) : Error → Prop
  /-- The name is private. -/
  | hidden (secret : isPrivate call.name = true) :
      Declines shape overrides call
        (.usage call.name
          ("`" ++ call.name ++ "` is private to " ++ shape.typeName ++ " and is not proxied"))
  /-- Neither is there an operation of this name, nor does the handle answer it. -/
  | unknown (visible : isPrivate call.name = false)
      (absent : ∀ signature, ¬ shape.Mirrors call.name signature)
      (other : call.name ∉ overrides) :
      Declines shape overrides call
        (.usage call.name (shape.typeName ++ " has no operation `" ++ call.name ++ "`"))
  /-- Its arguments do not fit the signature. -/
  | unbound {signature : Signature} {fault : Signature.BindFault}
      (mirrors : shape.Mirrors call.name signature)
      (faulty : signature.bindFault? call.args.length (call.kwargs.map (·.1)) = some fault) :
      Declines shape overrides call (.usage call.name (fault.message signature))

/-- A call by name is not declined. -/
def Accepts (shape : Shape) (overrides : List String) (call : Call) : Prop :=
  ∀ err, ¬ shape.Declines overrides call err

variable {shape : Shape} {overrides : List String} {call : Call} {err err' : Error}

/-- A call that does not fit has an error. -/
theorem exists_misfits (not : ¬ shape.Fits call) : ∃ err, shape.Misfits call err := by
  by_cases mirrored : ∃ signature, shape.Mirrors call.name signature
  · obtain ⟨signature, mirrors⟩ := mirrored
    rcases faulty : signature.bindFault? call.args.length (call.kwargs.map (·.1)) with _ | fault
    · refine absurd ⟨signature, mirrors, ?_⟩ not
      unfold Signature.bind
      rw [faulty]
    · exact ⟨_, .unbound mirrors faulty⟩
  · exact ⟨_, .unknown fun signature mirrors => mirrored ⟨signature, mirrors⟩⟩

/-- An operation that is mirrored has a public name. -/
theorem Mirrors.visible {name : String} {signature : Signature}
    (mirrors : shape.Mirrors name signature) : isPrivate name = false := by
  obtain ⟨_, _, _, visible, _⟩ := mirrors
  exact visible

/-- There is one error for a call that is declined. -/
theorem Declines.unique (distinct : shape.Distinct) (first : shape.Declines overrides call err)
    (second : shape.Declines overrides call err') : err = err' := by
  cases first with
  | hidden secret =>
    cases second with
    | hidden => rfl
    | unknown visible => cases secret.symm.trans visible
    | unbound mirrors => cases secret.symm.trans mirrors.visible
  | unknown visible absent =>
    cases second with
    | hidden secret => cases secret.symm.trans visible
    | unknown => rfl
    | unbound mirrors => exact absurd mirrors (absent _)
  | unbound mirrors faulty =>
    cases second with
    | hidden secret => cases secret.symm.trans mirrors.visible
    | unknown _ absent => exact absurd mirrors (absent _)
    | unbound mirrors' faulty' =>
      cases mirrors.unique distinct mirrors'
      cases faulty.symm.trans faulty'
      rfl

end Shape

namespace Gateway

variable {shape : Shape} {overrides : List String} {g : Gateway} {call : Call} {err : Error}

/-- A call that does not fit is not forwarded. -/
theorem forward_of_misfits (serves : shape.Serves overrides g) (misfits : shape.Misfits call err) :
    g.forward call.name call.args call.kwargs = Action.fail err := by
  unfold forward
  rw [serves.built]
  cases misfits with
  | unknown absent =>
    rcases found : (Surface.build shape overrides).operation? call.name with _ | operation
    · rfl
    · exact absurd (Surface.mirrors_of_operation? found) (absent _)
  | unbound mirrors faulty =>
    obtain ⟨operation, found, rfl⟩ :=
      Surface.operation?_of_mirrors overrides serves.distinct mirrors
    rw [found]
    dsimp only
    unfold Signature.bind
    rw [faulty]

/-- A call by name is declined, or left to the remote side, or answered by the handle, if it answers
this name. -/
theorem resolve_cases (serves : shape.Serves overrides g) (call : Call) :
    (∃ err, g.resolve call.name call.args call.kwargs = .error err
        ∧ shape.Declines overrides call err)
      ∨ (g.resolve call.name call.args call.kwargs = .ok .remote
        ∧ call.name ∉ overrides ∧ ∃ signature, shape.Mirrors call.name signature)
      ∨ (g.resolve call.name call.args call.kwargs = .ok .handle
        ∧ call.name ∈ overrides ∧ shape.Accepts overrides call) := by
  unfold resolve Surface.binding
  rw [serves.built]
  by_cases own : call.name ∈ overrides
  · rw [if_pos (Surface.isOverridden_iff.mpr own)]
    have accepts (fits : ∀ signature fault, shape.Mirrors call.name signature →
        signature.bindFault? call.args.length (call.kwargs.map (·.1)) ≠ some fault) :
        shape.Accepts overrides call := by
      rintro _ (secret | ⟨_, _, other⟩ | ⟨mirrors, faulty⟩)
      · cases (serves.visible _ own).symm.trans secret
      · exact other own
      · exact fits _ _ mirrors faulty
    rcases found : (Surface.build shape overrides).operation? call.name with _ | operation
    · refine .inr (.inr ⟨rfl, own, accepts fun signature _ mirrors => ?_⟩)
      exact absurd mirrors (Surface.not_mirrors_of_none serves.distinct found signature)
    · have mirrors := Surface.mirrors_of_operation? found
      dsimp only
      unfold Signature.bind
      rcases faulty : operation.signature.bindFault? call.args.length (call.kwargs.map (·.1))
        with _ | fault
      · rw [faulty]
        refine .inr (.inr ⟨rfl, own, accepts fun signature fault mirrors' faulty' => ?_⟩)
        rw [mirrors'.unique serves.distinct mirrors, faulty] at faulty'
        cases faulty'
      · rw [faulty]
        exact .inl ⟨_, rfl, .unbound mirrors faulty⟩
  · rw [if_neg fun h => own (Surface.isOverridden_iff.mp h)]
    rcases found : (Surface.build shape overrides).operation? call.name with _ | operation
    · left
      dsimp only
      by_cases secret : isPrivate call.name = true
      · rw [if_pos secret]
        exact ⟨_, rfl, .hidden secret⟩
      · rw [if_neg secret]
        exact ⟨_, rfl, .unknown (by simpa using secret)
          (Surface.not_mirrors_of_none serves.distinct found) own⟩
    · exact .inr (.inl ⟨rfl, own, _, Surface.mirrors_of_operation? found⟩)

/-- A call that is declined fails at once, or it does not fit what it would be forwarded to. -/
theorem resolve_of_declines (serves : shape.Serves overrides g)
    (declines : shape.Declines overrides call err) :
    g.resolve call.name call.args call.kwargs = .error err
      ∨ (g.resolve call.name call.args call.kwargs = .ok .remote ∧ shape.Misfits call err) := by
  rcases resolve_cases serves call with ⟨err', refused, declines'⟩ | ⟨remote, _, mirrored⟩
    | ⟨_, _, accepts⟩
  · rw [refused, declines.unique serves.distinct declines']
    exact .inl rfl
  · obtain ⟨signature, mirrors⟩ := mirrored
    refine .inr ⟨remote, ?_⟩
    cases declines with
    | hidden secret => cases secret.symm.trans mirrors.visible
    | unknown _ absent => exact absurd mirrors (absent _)
    | unbound mirrors faulty => exact .unbound mirrors faulty
  · exact absurd declines (accepts err)

/-- A call that is accepted is left to the handle if it answers the name. -/
theorem resolve_of_accepts (serves : shape.Serves overrides g) (own : call.name ∈ overrides)
    (accepts : shape.Accepts overrides call) :
    g.resolve call.name call.args call.kwargs = .ok .handle := by
  rcases resolve_cases serves call with ⟨err, _, declines⟩ | ⟨_, other, _⟩ | ⟨handle, _, _⟩
  · exact absurd declines (accepts err)
  · exact absurd own other
  · exact handle

end Gateway

/-! ## Clients -/

namespace Client

/-- A client is asked for its default database, perhaps with a name for want of a default. -/
inductive WantsDefault : Command → Option String → Prop
  /-- By the helper. -/
  | helper : WantsDefault .defaultDatabase none
  /-- By name. -/
  | called {call : Call} {into : Option Outcome.Kind} {fallback : Option String}
      (operation : call.name = "get_default_database")
      (accepts : Shape.client.Accepts localOperations call)
      (names : call.Names "default" fallback) : WantsDefault (.invoke call into) fallback

/-- A client is asked for a database, by its name if there is one. -/
inductive Wants (c : Client) : Command → Option String → Prop
  /-- By the helper. -/
  | getDatabase (name : Option String) : Wants c (.getDatabase name) name
  /-- By the helper that takes private names. -/
  | get (name : String) : Wants c (.get name) (some name)
  /-- As an attribute. -/
  | member {name : String} (visible : isPrivate name = false) : Wants c (.member name) (some name)
  /-- By name. -/
  | called {call : Call} {into : Option Outcome.Kind} {name : Option String}
      (operation : call.name = "get_database")
      (accepts : Shape.client.Accepts localOperations call) (names : call.Names "name" name) :
      Wants c (.invoke call into) name
  /-- As the default. -/
  | ofDefault {command : Command} {fallback : Option String} {name : String}
      (wants : WantsDefault command fallback)
      (set : c.options.defaultDatabase.or fallback = some name) : Wants c command (some name)

/-- The parameters of a client that take texts, with the operations that they belong to. -/
def textParameters : List (String × String) :=
  [("get_database", "name"), ("get_default_database", "default")]

/-- What a client refuses, besides calls that do not fit. -/
inductive Refuses (c : Client) : Command → Error → Prop
  /-- A database without a name. -/
  | nameless {command : Command} {name : Option String} (wants : c.Wants command name)
      (empty : name = none ∨ name = some "") :
      Refuses c command (.usage "get_database"
        ("database name must be a non-empty string; pass a name, or call "
          ++ "get_default_database()"))
  /-- A default database where none is set. -/
  | unset {command : Command} {fallback : Option String} (wants : WantsDefault command fallback)
      (none : c.options.defaultDatabase.or fallback = .none) :
      Refuses c command (.usage "get_default_database"
        ("no default database configured; set ClientOptions::default_database or add "
          ++ "defaultDatabase to the endpoint URL"))
  /-- A private name as an attribute. -/
  | hidden {name : String} (secret : isPrivate name = true) :
      Refuses c (.member name) (.usage name ("MongoClient has no attribute `" ++ name
        ++ "`; to access the database use client.get(\"" ++ name ++ "\")"))
  /-- A name that is no text. -/
  | untyped {call : Call} {into : Option Outcome.Kind} {key : String} {v : Value}
      (takes : (call.name, key) ∈ textParameters)
      (accepts : Shape.client.Accepts localOperations call) (mistypes : call.Mistypes key v) :
      Refuses c (.invoke call into) (mistyped call.name key v)
  /-- To drop a database without a name. -/
  | undroppable : Refuses c (.dropDatabase "")
      (.usage "drop_database" "database name must be a non-empty string")
  /-- A session. -/
  | session {command : Command}
      (starts : command = .startSession ∨ ∃ call into, command = .invoke call into
        ∧ call.name = "start_session" ∧ Shape.client.Accepts localOperations call) :
      Refuses c command (.usage "start_session"
        "sessions are not supported by the remote API; issue operations without a session")

end Client

/-! ## Databases -/

namespace Database

/-- A database is asked for a collection by its name; no name is an empty one. -/
inductive Wants : Command → String → Prop
  /-- By the helper. -/
  | getCollection (name : String) : Wants (.getCollection name) name
  /-- As an attribute. -/
  | member {name : String} (visible : isPrivate name = false) : Wants (.member name) name
  /-- To be made. -/
  | createCollection (name : String) : Wants (.createCollection name) name
  /-- By name. -/
  | called {call : Call} {into : Option Outcome.Kind} {name : Option String}
      (operation : call.name = "get_collection")
      (accepts : Shape.database.Accepts localOperations call) (names : call.Names "name" name) :
      Wants (.invoke call into) (name.getD "")

/-- What a database refuses, besides calls that do not fit. -/
inductive Refuses (d : Database) (w : World) : Command → Error → Prop
  /-- A collection without a name. -/
  | nameless {command : Command} (wants : Wants command "") :
      Refuses d w command (.usage "get_collection" "collection name must be a non-empty string")
  /-- A private name as an attribute. -/
  | hidden {name : String} (secret : isPrivate name = true) :
      Refuses d w (.member name) (.usage name ("Database has no attribute `" ++ name
        ++ "`; to access the collection use db.get_collection(\"" ++ name ++ "\")"))
  /-- A name that is no text. -/
  | untyped {call : Call} {into : Option Outcome.Kind} {v : Value}
      (operation : call.name = "get_collection")
      (accepts : Shape.database.Accepts localOperations call)
      (mistypes : call.Mistypes "name" v) :
      Refuses d w (.invoke call into) (mistyped call.name "name" v)
  /-- To drop a collection without a name. -/
  | undroppable : Refuses d w (.dropCollection "")
      (.usage "drop_collection" "collection name must be a non-empty string")
  /-- Its client, when no handle of that is left. -/
  | orphaned {command : Command}
      (asks : command = .client ∨ ∃ call into, command = .invoke call into
        ∧ call.name = "client" ∧ Shape.database.Accepts localOperations call)
      (gone : d.owner.connection.client ∈ w.dropped) :
      Refuses d w command (.usage "client"
        ("the client that created this database has been dropped; "
          ++ "keep the Client alive while using its databases"))

end Database

/-! ## Collections and cursors -/

/-- What a collection refuses, besides calls that do not fit: to skip more documents than 64 bits
with a sign can tell. -/
inductive Collection.Refuses : Command → Error → Prop
  /-- There are too many of them. -/
  | skip {filter : Option Document} {options : List FindOption} {n : Nat}
      (skips : (FindOptions.ofList options).skip = some n) (large : 9223372036854775807 < n) :
      Refuses (.find filter options)
        (.usage "find" ("skip " ++ toString n ++ " exceeds the largest signed 64-bit value"))

/-- What a cursor refuses, besides calls that do not fit: a size of batches that is no whole number
of 32 bits without a sign. -/
inductive Cursor.Refuses : Command → Error → Prop
  /-- The size is no such number. -/
  | size {call : Call} {into : Option Outcome.Kind} (operation : call.name = "batch_size")
      (accepts : Shape.cursor.Accepts localOperations call)
      (outside : ∀ n : Nat, n ≤ 4294967295 → ¬ call.Sizes n) :
      Refuses (.invoke call into)
        (.usage "batch_size" "batch_size must be a non-negative integer")

/-! ## All handles -/

namespace Handle

/-- The shape whose operations a handle mirrors, and the names that it answers itself; a close
signal has neither. -/
def offers? : Handle → Option (Shape × List String)
  | client _ => some (.client, Client.localOperations)
  | database _ => some (.database, Database.localOperations)
  | collection _ => some (.collection, Collection.localOperations)
  | cursor _ => some (.cursor, Cursor.localOperations)
  | changeStream _ => some (.changeStream, ChangeStream.localOperations)
  | closeSignal _ => none

/-- A handle refuses a command in a world before the connection is asked, and this is the error. -/
inductive Refuses : Handle → World → Command → Error → Prop
  /-- A call that does not fit is to be forwarded. -/
  | forward {h : Handle} {w : World} {shape : Shape} {overrides : List String} {call : Call}
      {err : Error} (offers : h.offers? = some (shape, overrides))
      (misfits : shape.Misfits call err) : Refuses h w (.forward call) err
  /-- The same, where a handle is to be made of the reply. -/
  | forwardOutcome {h : Handle} {w : World} {shape : Shape} {overrides : List String} {call : Call}
      {err : Error} (offers : h.offers? = some (shape, overrides))
      (misfits : shape.Misfits call err) (into : Option Outcome.Kind) :
      Refuses h w (.forwardOutcome call into) err
  /-- A call by name is declined. -/
  | invoke {h : Handle} {w : World} {shape : Shape} {overrides : List String} {call : Call}
      {err : Error} (offers : h.offers? = some (shape, overrides))
      (declines : shape.Declines overrides call err) (into : Option Outcome.Kind) :
      Refuses h w (.invoke call into) err
  /-- A client has its own reasons. -/
  | client {c : Client} {w : World} {command : Command} {err : Error}
      (refuses : c.Refuses command err) : Refuses (client c) w command err
  /-- So has a database. -/
  | database {d : Database} {w : World} {command : Command} {err : Error}
      (refuses : d.Refuses w command err) : Refuses (database d) w command err
  /-- So has a collection. -/
  | collection {c : Collection} {w : World} {command : Command} {err : Error}
      (refuses : Collection.Refuses command err) : Refuses (collection c) w command err
  /-- So has a cursor. -/
  | cursor {c : Cursor} {w : World} {command : Command} {err : Error}
      (refuses : Cursor.Refuses command err) : Refuses (cursor c) w command err

/-- A handle with operations calls them through its gateway, and one without them has none. -/
theorem serves_or_none (h : Handle) : (h.gateway? = none ∧ h.offers? = none)
    ∨ ∃ g shape overrides, h.gateway? = some g ∧ h.offers? = some (shape, overrides)
      ∧ shape.Serves overrides g := by
  cases h with
  | client c => exact .inr ⟨_, _, _, rfl, rfl, c.serves⟩
  | database d => exact .inr ⟨_, _, _, rfl, rfl, d.serves⟩
  | collection c => exact .inr ⟨_, _, _, rfl, rfl, c.serves⟩
  | cursor c => exact .inr ⟨_, _, _, rfl, rfl, c.serves⟩
  | changeStream s => exact .inr ⟨_, _, _, rfl, rfl, s.serves⟩
  | closeSignal subscription => exact .inl ⟨rfl, rfl⟩

/-- What a handle offers is served by its gateway. -/
theorem serves_of_offers {h : Handle} {shape : Shape} {overrides : List String}
    (offers : h.offers? = some (shape, overrides)) :
    ∃ g, h.gateway? = some g ∧ shape.Serves overrides g := by
  rcases h.serves_or_none with ⟨_, none⟩ | ⟨g, _, _, operates, offers', serves⟩
  · cases none.symm.trans offers
  · cases offers.symm.trans offers'
    exact ⟨g, operates, serves⟩

/-- A handle with a gateway offers what the gateway serves. -/
theorem offers_of_gateway {h : Handle} {g : Gateway} (operates : h.gateway? = some g) :
    ∃ shape overrides, h.offers? = some (shape, overrides) ∧ shape.Serves overrides g := by
  rcases h.serves_or_none with ⟨none, _⟩ | ⟨_, shape, overrides, operates', offers, serves⟩
  · cases none.symm.trans operates
  · cases operates.symm.trans operates'
    exact ⟨shape, overrides, offers, serves⟩

end Handle

end RemoteDriver
