import RemoteDriver.Proofs.Failure.Services
import RemoteDriver.Proofs.Refusal.Reasons

/-!
# Refusals leave everything as it was

Whatever the reason is, a handle that refuses a command ends it with the error of the reason, under
all limits, and neither the handle nor the world is another one then (`Handle.Refuses.rejects`).  No
step is made before the reason is found: names are looked up, arguments are bound and read, and
only then does a computation begin that touches anything.
-/

namespace RemoteDriver

open Bson (Document Value)
open RemoteDriver.Action

/-- A handle ends a command with an error, whatever the limits are, and all is as it was. -/
def Handle.Rejects (h : Handle) (w : World) (command : Command) (err : Error) : Prop :=
  ∃ service, h.service? command = some service
    ∧ ∀ limits, service limits w = (.error (.failed err), some h, w)

namespace Handle

variable {h : Handle} {w : World} {command : Command} {err : Error}

/-- A handle that stays what it is rejects what its computation fails with. -/
theorem rejects_of_steady {t : Action Result} (known : h.service? command = some (h.steady t))
    (fails : ∀ limits, t limits w = (.error (.failed err), w)) : h.Rejects w command err := by
  refine ⟨_, known, fun limits => ?_⟩
  unfold steady
  rw [fails limits]

/-- The same of a computation that does nothing but fail. -/
theorem rejects_of_fail {t : Action Result} (known : h.service? command = some (h.steady t))
    (fails : t = fail err) : h.Rejects w command err :=
  rejects_of_steady known fun _ => fails ▸ rfl

end Handle

namespace Action

variable {α β : Type}

/-- Nothing follows a failure. -/
theorem bind_fail (err : Error) (f : α → Action β) : (do f (← fail err)) = fail err := rfl

end Action

namespace Gateway

variable {shape : Shape} {overrides : List String} {g : Gateway} {call : Call} {err : Error}

/-- A call by name is answered by the handle if it answers this name and accepts the call. -/
theorem invoke_of_accepts (serves : shape.Serves overrides g) (own : call.name ∈ overrides)
    (accepts : shape.Accepts overrides call) (answer : Action Outcome) :
    g.invoke call.name call.args call.kwargs answer = answer := by
  unfold invoke
  rw [resolve_of_accepts serves own accepts]

/-- A call by name that is declined does nothing but fail. -/
theorem invoke_of_declines (serves : shape.Serves overrides g)
    (declines : shape.Declines overrides call err) (answer : Action Outcome) :
    g.invoke call.name call.args call.kwargs answer = fail err := by
  unfold invoke
  rcases resolve_of_declines serves declines with refused | ⟨remote, misfits⟩
  · rw [refused]
  · rw [remote]
    dsimp only
    unfold forwardOutcome
    rw [forward_of_misfits serves misfits, bind_fail]

end Gateway

/-! ## Clients -/

namespace Client

variable {c : Client} {w : World} {command : Command}

/-- A database without a name is refused. -/
theorem getDatabase_of_empty {name : Option String} (empty : name = none ∨ name = some "") :
    c.getDatabase name = getDatabase.refused := by
  unfold getDatabase
  rcases empty with rfl | rfl
  · rfl
  · exact if_pos rfl

/-- A call by name is served with what comes of it. -/
theorem service?_invoke (c : Client) (call : Call) (into : Option Outcome.Kind) :
    (Handle.client c).service? (.invoke call into) = some ((Handle.client c).steady
      (do return .ofOutcome (← c.invoke call.name call.args call.kwargs) into)) := rfl

/-- What a client makes of a call that it accepts and answers itself. -/
theorem invoke_of_accepts {call : Call} (own : call.name ∈ localOperations)
    (accepts : Shape.client.Accepts localOperations call) :
    c.invoke call.name call.args call.kwargs = c.answer call.name call.args call.kwargs :=
  Gateway.invoke_of_accepts c.serves own accepts _

/-- A call for a database, by its name if there is one. -/
theorem invoke_getDatabase {call : Call} (operation : call.name = "get_database")
    (accepts : Shape.client.Accepts localOperations call) :
    c.invoke call.name call.args call.kwargs = (do
      let name ← ofExcept (textArgument call.name call.args call.kwargs "name")
      return .database (← c.getDatabase name)) := by
  have own : call.name ∈ localOperations := by
    rw [operation]
    decide
  rw [invoke_of_accepts own accepts]
  exact if_pos operation

/-- A call for the default database. -/
theorem invoke_getDefaultDatabase {call : Call} (operation : call.name = "get_default_database")
    (accepts : Shape.client.Accepts localOperations call) :
    c.invoke call.name call.args call.kwargs = (do
      let fallback ← ofExcept (textArgument call.name call.args call.kwargs "default")
      return .database (← c.defaultDatabase fallback)) := by
  have own : call.name ∈ localOperations := by
    rw [operation]
    decide
  have other : call.name ≠ "get_database" := by
    rw [operation]
    decide
  rw [invoke_of_accepts own accepts]
  unfold answer
  rw [if_neg other, if_pos operation]

/-- A call to start a session. -/
theorem invoke_startSession {call : Call} (operation : call.name = "start_session")
    (accepts : Shape.client.Accepts localOperations call) :
    c.invoke call.name call.args call.kwargs = c.startSession := by
  have own : call.name ∈ localOperations := by
    rw [operation]
    decide
  have other : call.name ≠ "get_database" ∧ call.name ≠ "get_default_database" := by
    rw [operation]
    decide
  rw [invoke_of_accepts own accepts]
  unfold answer
  rw [if_neg other.1, if_neg other.2, if_pos operation]

/-- Whoever wants the default database is served with it. -/
theorem WantsDefault.served {fallback : Option String} (wants : WantsDefault command fallback)
    (c : Client) : ∃ f : Database → Result, (∀ d, (f d).IsPlain)
      ∧ (Handle.client c).service? command
        = some ((Handle.client c).steady (do return f (← c.defaultDatabase fallback))) := by
  cases wants with
  | helper => exact ⟨fun d => .handle (.database d), fun _ => rfl, rfl⟩
  | @called call into _ operation accepts names =>
    refine ⟨fun d => .ofOutcome (.database d) into, fun d => Result.isPlain_ofOutcome _ _, ?_⟩
    have service := c.service?_invoke call into
    rw [service, invoke_getDefaultDatabase operation accepts, textArgument_of_names names,
      bind_ofExcept_ok, bind_assoc]
    rfl

/-- Whoever wants a database is served with it, or with a failure that does not depend on how it was
asked for. -/
theorem Wants.served {name : Option String} (wants : c.Wants command name) :
    ∃ f : Database → Result, (∀ d, (f d).IsPlain) ∧ (Handle.client c).service? command
      = some ((Handle.client c).steady (do return f (← c.getDatabase name))) := by
  cases wants with
  | getDatabase | get => exact ⟨fun d => .handle (.database d), fun _ => rfl, rfl⟩
  | @member name visible =>
    refine ⟨fun d => .handle (.database d), fun _ => rfl, ?_⟩
    have shown : c.attr name = c.getDatabase (some name) :=
      if_neg (by rw [visible]; exact Bool.false_ne_true)
    rw [← shown]
    rfl
  | @called call into _ operation accepts names =>
    refine ⟨fun d => .ofOutcome (.database d) into, fun d => Result.isPlain_ofOutcome _ _, ?_⟩
    have service := c.service?_invoke call into
    rw [service, invoke_getDatabase operation accepts, textArgument_of_names names,
      bind_ofExcept_ok, bind_assoc]
    rfl
  | ofDefault wants set =>
    obtain ⟨f, plain, service⟩ := wants.served c
    refine ⟨f, plain, ?_⟩
    unfold defaultDatabase at service
    rw [set] at service
    exact service

/-- A client that refuses a command ends it with the error and leaves everything as it was. -/
theorem Refuses.rejects {err : Error} (refuses : c.Refuses command err) :
    (Handle.client c).Rejects w command err := by
  cases refuses with
  | nameless wants empty =>
    obtain ⟨f, _, service⟩ := wants.served
    rw [getDatabase_of_empty empty] at service
    exact Handle.rejects_of_fail service rfl
  | unset wants none =>
    obtain ⟨f, _, service⟩ := wants.served c
    unfold defaultDatabase at service
    rw [none] at service
    exact Handle.rejects_of_fail service rfl
  | @hidden name secret =>
    have fails : c.attr name = fail _ := if_pos secret
    have service : (Handle.client c).service? (.member name) = some ((Handle.client c).steady
        (do return .handle (.database (← c.attr name)))) := rfl
    rw [fails] at service
    exact Handle.rejects_of_fail service rfl
  | @untyped call into key v takes accepts mistypes =>
    have service := c.service?_invoke call into
    have misread := textArgument_of_mistypes mistypes
    rcases List.mem_cons.mp takes with same | same
    · obtain ⟨operation, rfl⟩ := Prod.mk.inj same
      rw [invoke_getDatabase operation accepts, misread] at service
      exact Handle.rejects_of_fail service rfl
    · obtain ⟨operation, rfl⟩ := Prod.mk.inj (List.mem_singleton.mp same)
      rw [invoke_getDefaultDatabase operation accepts, misread] at service
      exact Handle.rejects_of_fail service rfl
  | undroppable => exact Handle.rejects_of_fail rfl rfl
  | session starts =>
    rcases starts with rfl | ⟨call, into, rfl, operation, accepts⟩
    · exact Handle.rejects_of_fail rfl rfl
    · have service := c.service?_invoke call into
      rw [invoke_startSession operation accepts] at service
      exact Handle.rejects_of_fail service rfl

end Client

/-! ## Databases -/

namespace Database

variable {d : Database} {w : World} {command : Command}

/-- A call by name is served with what comes of it. -/
theorem service?_invoke (d : Database) (call : Call) (into : Option Outcome.Kind) :
    (Handle.database d).service? (.invoke call into) = some ((Handle.database d).steady
      (do return .ofOutcome (← d.invoke call.name call.args call.kwargs) into)) := rfl

/-- What a database makes of a call that it accepts and answers itself. -/
theorem invoke_of_accepts {call : Call} (own : call.name ∈ localOperations)
    (accepts : Shape.database.Accepts localOperations call) :
    d.invoke call.name call.args call.kwargs = d.answer call.name call.args call.kwargs :=
  Gateway.invoke_of_accepts d.serves own accepts _

/-- A call for a collection. -/
theorem invoke_getCollection {call : Call} (operation : call.name = "get_collection")
    (accepts : Shape.database.Accepts localOperations call) :
    d.invoke call.name call.args call.kwargs = (do
      let name ← ofExcept (textArgument call.name call.args call.kwargs "name")
      return .collection (← ofExcept (d.getCollection (name.getD "")))) := by
  have own : call.name ∈ localOperations := by
    rw [operation]
    decide
  have other : call.name ≠ "name" ∧ call.name ≠ "client" := by
    rw [operation]
    decide
  rw [invoke_of_accepts own accepts]
  unfold answer
  rw [if_neg other.1, if_neg other.2, if_pos operation]

/-- A call for the client. -/
theorem invoke_client {call : Call} (operation : call.name = "client")
    (accepts : Shape.database.Accepts localOperations call) :
    d.invoke call.name call.args call.kwargs = (do return .client (← d.client)) := by
  have own : call.name ∈ localOperations := by
    rw [operation]
    decide
  have other : call.name ≠ "name" := by
    rw [operation]
    decide
  rw [invoke_of_accepts own accepts]
  unfold answer
  rw [if_neg other, if_pos operation]

/-- The client is not told where no handle of it is left. -/
theorem client_of_dropped (gone : d.owner.connection.client ∈ w.dropped) (limits : Limits) :
    d.client limits w = (.error (.failed (.usage "client"
      ("the client that created this database has been dropped; "
        ++ "keep the Client alive while using its databases"))), w) := by
  have told : w.dropped.contains d.owner.connection.client = true := List.contains_iff_mem.mpr gone
  unfold client
  rw [bind_eq_resumed]
  show (if w.dropped.contains d.owner.connection.client = true then _ else _ : Action Client)
    limits w = _
  rw [if_pos told]
  rfl

/-- Whoever wants a collection is served with what comes of its name, or with its refusal. -/
theorem Wants.served {name : String} (wants : Wants command name) (d : Database) :
    ∃ f : Collection → Action Result, (Handle.database d).service? command
      = some ((Handle.database d).steady (do f (← ofExcept (d.getCollection name)))) := by
  cases wants with
  | getCollection => exact ⟨fun c => return .handle (.collection c), rfl⟩
  | @member name visible =>
    refine ⟨fun c => return .handle (.collection c), ?_⟩
    have shown : d.attr name = d.getCollection name :=
      if_neg (by rw [visible]; exact Bool.false_ne_true)
    rw [← shown]
    rfl
  | createCollection name =>
    refine ⟨fun c => do
      let _ ← d.gateway.forward "create_collection" [.string name] []
      return .handle (.collection c), ?_⟩
    have same : (do return .handle (.collection (← d.createCollection name)) : Action Result)
        = (do
          let c ← ofExcept (d.getCollection name)
          let _ ← d.gateway.forward "create_collection" [.string name] []
          return .handle (.collection c)) := by
      unfold Database.createCollection
      rw [bind_assoc]
      refine bind_congr fun c => ?_
      rw [bind_assoc]
      exact bind_congr fun _ => pure_bind _ _
    rw [← same]
    rfl
  | @called call into name operation accepts names =>
    refine ⟨fun c => return .ofOutcome (.collection c) into, ?_⟩
    have service := d.service?_invoke call into
    rw [service, invoke_getCollection operation accepts, textArgument_of_names names,
      bind_ofExcept_ok, bind_assoc]
    rfl

/-- A database that refuses a command ends it with the error and leaves everything as it was. -/
theorem Refuses.rejects {err : Error} (refuses : d.Refuses w command err) :
    (Handle.database d).Rejects w command err := by
  cases refuses with
  | nameless wants =>
    obtain ⟨f, service⟩ := wants.served d
    exact Handle.rejects_of_fail service rfl
  | @hidden name secret =>
    have fails : d.attr name = .error _ := if_pos secret
    have service : (Handle.database d).service? (.member name) = some ((Handle.database d).steady
        (do return .handle (.collection (← ofExcept (d.attr name))))) := rfl
    rw [fails] at service
    exact Handle.rejects_of_fail service rfl
  | @untyped call into v operation accepts mistypes =>
    have service := d.service?_invoke call into
    rw [invoke_getCollection operation accepts, textArgument_of_mistypes mistypes] at service
    exact Handle.rejects_of_fail service rfl
  | undroppable => exact Handle.rejects_of_fail rfl rfl
  | orphaned asks gone =>
    rcases asks with rfl | ⟨call, into, rfl, operation, accepts⟩
    · refine Handle.rejects_of_steady (t := do return .handle (.client (← d.client))) rfl ?_
      intro limits
      rw [bind_eq_resumed, client_of_dropped gone limits]
      rfl
    · have service := d.service?_invoke call into
      rw [invoke_client operation accepts] at service
      refine Handle.rejects_of_steady service fun limits => ?_
      rw [bind_assoc, bind_eq_resumed, client_of_dropped gone limits]
      rfl

end Database

/-! ## Collections and cursors -/

/-- A collection that refuses a command ends it and leaves everything as it was. -/
theorem Collection.Refuses.rejects {c : Collection} {w : World} {command : Command} {err : Error}
    (refuses : Refuses command err) : (Handle.collection c).Rejects w command err := by
  cases refuses with
  | @skip filter options n skips large =>
    have tooLarge : Number.fitsInt64 n = false := by
      unfold Number.fitsInt64 Number.minInt64 Number.maxInt64
      rw [Bool.and_eq_false_iff, decide_eq_false_iff_not, decide_eq_false_iff_not]
      omega
    have refused : (FindOptions.ofList options).toKwargs = .error (.usage "find"
        ("skip " ++ toString n ++ " exceeds the largest signed 64-bit value")) := by
      unfold FindOptions.toKwargs
      rw [skips]
      dsimp only
      rw [tooLarge]
      rfl
    have service : (Handle.collection c).service? (.find filter options)
        = some ((Handle.collection c).steady
          (do return .handle (.cursor (← c.find filter (.ofList options))))) := rfl
    unfold Collection.find at service
    rw [refused] at service
    exact Handle.rejects_of_fail service rfl

/-- A cursor that refuses a command ends it and leaves everything as it was. -/
theorem Cursor.Refuses.rejects {c : Cursor} {w : World} {command : Command} {err : Error}
    (refuses : Refuses command err) : (Handle.cursor c).Rejects w command err := by
  cases refuses with
  | @size call into operation accepts outside =>
    have own : call.name ∈ localOperations := by
      rw [operation]
      decide
    have other : call.name ≠ "alive" ∧ call.name ≠ "cursor_id"
        ∧ ¬ (call.name = "address" ∨ call.name = "session")
        ∧ ¬ (call.name = "next" ∨ call.name = "try_next") ∧ call.name ≠ "close" := by
      rw [operation]
      decide
    obtain ⟨alive, token, absent, next, close⟩ := other
    refine ⟨_, rfl, fun limits => ?_⟩
    have left := Gateway.resolve_of_accepts c.serves own accepts
    unfold invoke
    rw [left]
    dsimp only
    unfold answer
    rw [if_neg alive, if_neg token, if_neg absent, if_neg next, if_neg close, if_pos operation,
      (sizeArgument_eq_none call).mpr outside, operation]
    rfl

/-! ## All handles -/

namespace Handle

variable {h : Handle} {w : World} {command : Command} {err : Error}

/-- All handles with operations forward calls. -/
theorem service?_of_common {g : Gateway} {t : Action Result} (operates : h.gateway? = some g)
    (common : common? g command = some t) : h.service? command = some (h.steady t) := by
  unfold service?
  rw [operates, Option.bind_some, common]

/-- A call by name that is declined is rejected. -/
theorem rejects_of_declines {shape : Shape} {overrides : List String} {call : Call}
    (offers : h.offers? = some (shape, overrides)) (declines : shape.Declines overrides call err)
    (into : Option Outcome.Kind) : h.Rejects w (.invoke call into) err := by
  cases h with
  | client c =>
    cases offers
    have fails : c.invoke call.name call.args call.kwargs = fail err :=
      Gateway.invoke_of_declines c.serves declines _
    refine rejects_of_fail (t := do
      return .ofOutcome (← c.invoke call.name call.args call.kwargs) into) rfl ?_
    rw [fails, bind_fail]
  | database d =>
    cases offers
    have fails : d.invoke call.name call.args call.kwargs = fail err :=
      Gateway.invoke_of_declines d.serves declines _
    refine rejects_of_fail (t := do
      return .ofOutcome (← d.invoke call.name call.args call.kwargs) into) rfl ?_
    rw [fails, bind_fail]
  | collection c =>
    cases offers
    have fails : c.invoke call.name call.args call.kwargs = fail err :=
      Gateway.invoke_of_declines c.serves declines _
    refine rejects_of_fail (t := do
      return .ofOutcome (← c.invoke call.name call.args call.kwargs) into) rfl ?_
    rw [fails, bind_fail]
  | cursor c =>
    cases offers
    refine ⟨_, rfl, fun limits => ?_⟩
    rcases Gateway.resolve_of_declines c.serves declines with refused | ⟨remote, _⟩
    · unfold Cursor.invoke
      rw [refused]
      rfl
    · exact absurd remote (c.resolve_ne_remote call.name call.args call.kwargs)
  | changeStream s =>
    cases offers
    refine ⟨_, rfl, fun limits => ?_⟩
    rcases Gateway.resolve_of_declines s.serves declines with refused | ⟨remote, _⟩
    · unfold ChangeStream.invoke
      rw [refused]
      rfl
    · exact absurd remote (s.resolve_ne_remote call.name call.args call.kwargs)
  | closeSignal subscription => cases offers

/-- Whatever a handle refuses, it ends with the error of the reason, and all is as it was. -/
theorem Refuses.rejects (refuses : h.Refuses w command err) : h.Rejects w command err := by
  cases refuses with
  | forward offers misfits =>
    obtain ⟨g, operates, serves⟩ := serves_of_offers offers
    refine rejects_of_fail (service?_of_common operates rfl) ?_
    rw [Gateway.forward_of_misfits serves misfits, bind_fail]
  | forwardOutcome offers misfits into =>
    obtain ⟨g, operates, serves⟩ := serves_of_offers offers
    refine rejects_of_fail (service?_of_common operates rfl) ?_
    unfold Gateway.forwardOutcome
    rw [Gateway.forward_of_misfits serves misfits, bind_fail, bind_fail]
  | invoke offers declines into => exact rejects_of_declines offers declines into
  | client refuses => exact refuses.rejects
  | database refuses => exact refuses.rejects
  | collection refuses => exact refuses.rejects
  | cursor refuses => exact refuses.rejects

end Handle

end RemoteDriver
