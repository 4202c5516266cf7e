import RemoteDriver.Proofs.Refusal.Handles
import RemoteDriver.Proofs.Surface.Helpers

/-!
# There are no other reasons

A handle that ends a command by misuse has refused it for one of its reasons, or has come to the
connection, which refuses what it is given: the client has been closed, or a value has no form on
the wire (`Handle.Balks`).  Here this is shown of the handles that stay what they are.

A call by name is declined, or forwarded, or answered by the handle, and each way is looked at
(`Handle.exhausts_of_invoke`).  Typed helpers need no reason of their own beyond a missing name or
too large a number, for what they call fits what is mirrored.
-/

namespace RemoteDriver

open Bson (Document Value)
open RemoteDriver.Action

/-! ## Refusals of the connection -/

/-- Only what has failed has a failure. -/
theorem eq_error_of_failure? {α : Type} {r : Except Halt α} {err : Error}
    (failed : failure? r = some err) : r = .error (.failed err) := by
  rcases r with (err' | _) | a
  all_goals cases failed
  rfl

/-- A command to a cursor may come to a request for a batch. -/
def Cursor.MayAsk : Command → Prop
  | .advance | .tryNext | .collect | .stream | .take _ => True
  | .invoke call _ => call.name = "next" ∨ call.name = "try_next"
  | _ => False

namespace Handle

/-- A command to a handle with a gateway is refused by the connection, with this error. -/
inductive Balks (h : Handle) (g : Gateway) (w : World) (command : Command) (err : Error) : Prop
  /-- The client has been closed, and the error says so. -/
  | closed (shut : w.isClosed g.connection.client = true) (operation : String)
      (told : err = Connection.closedError operation)
  /-- The call that the command comes down to has a value without a form on the wire. -/
  | call (call : Call) (made : g.call? command = some call)
      (cannot : ¬ call.Encodes g.connection.codec)
  /-- The size of batches has none, and a batch may be asked for. -/
  | batch (c : Cursor) (same : h = .cursor c) (asks : Cursor.MayAsk command)
      (cannot : ¬ c.getMore.Encodes c.connection.codec)

/-- Whenever a handle ends a command by misuse, it has refused it, or the connection has. -/
def Exhausts (h : Handle) (g : Gateway) (w : World) (command : Command) : Prop :=
  ∀ service limits err, h.service? command = some service →
    complaint? (service limits w).1 = some err → err.IsMisuse →
      h.Refuses w command err ∨ h.Balks g w command err

variable {h : Handle} {g : Gateway} {w : World} {command : Command} {t : Action Result}

/-- What all handles with operations know is no handle's own. -/
theorem service?_of_own {service : Service} (known : h.own? command = some service) :
    h.service? command = some service := by
  unfold service?
  split
  · next t common =>
    rcases operates : h.gateway? with _ | g
    · rw [operates] at common
      cases common
    · rw [operates, Option.bind_some] at common
      cases command <;> cases common
      all_goals
        cases h <;> cases known
  · exact known

/-- A command that is refused is ended for that reason and no other. -/
theorem exhausts_of_refuses {err : Error} (refuses : h.Refuses w command err) :
    h.Exhausts g w command := by
  intro service limits err' known told _
  obtain ⟨service', known', rejects⟩ := refuses.rejects
  cases known.symm.trans known'
  rw [rejects limits] at told
  cases told
  exact .inl refuses

/-- A command that never fails. -/
theorem exhausts_of_calm (known : h.service? command = some (h.steady t)) (plain : t.Plain)
    (calm : ∀ limits, failure? (t limits w).1 = none) : h.Exhausts g w command := by
  intro service limits err known' told _
  cases known.symm.trans known'
  have told : complaint? (t limits w).1 = some err := told
  rw [complaint?_of_plain (plain limits w)] at told
  cases (calm limits).symm.trans told

/-- A call that fits is misuse only where the connection refuses it. -/
theorem exhausts_of_fits {shape : Shape} {overrides : List String} {call : Call}
    (serves : shape.Serves overrides g) (known : h.service? command = some (h.steady t))
    (plain : t.Plain) (undertakes : Undertakes g t (g.call? command))
    (made : g.call? command = some call) (fits : shape.Fits call) : h.Exhausts g w command := by
  intro service limits err known' told misuse
  cases known.symm.trans known'
  have told : complaint? (t limits w).1 = some err := told
  rw [complaint?_of_plain (plain limits w)] at told
  rw [made] at undertakes
  obtain ⟨fails, _⟩ := undertakes.misuse (eq_error_of_failure? told) misuse
  rw [Gateway.forward_of_fits serves fits] at fails
  obtain ⟨refuses, _⟩ := Connection.refuses_of_usage fails misuse
  right
  rcases refuses.closed_or_not_encodes with shut | cannot
  · rcases refuses with ⟨_, rfl⟩ | ⟨isOpen, _⟩
    · exact .closed shut call.name rfl
    · cases isOpen.symm.trans shut
  · exact .call call made cannot

/-- Whatever all handles with operations know. -/
theorem exhausts_of_common {shape : Shape} {overrides : List String}
    (operates : h.gateway? = some g) (offers : h.offers? = some (shape, overrides))
    (serves : shape.Serves overrides g) (common : common? g command = some t) :
    h.Exhausts g w command := by
  have known := service?_of_common operates common
  have plain := common_plain common
  have undertakes := g.common_undertakes common
  cases command <;> cases common
  case route | surface => exact exhausts_of_calm known plain fun _ => rfl
  case forward call =>
    by_cases fits : shape.Fits call
    · exact exhausts_of_fits serves known plain undertakes rfl fits
    · obtain ⟨err, misfits⟩ := Shape.exists_misfits fits
      exact exhausts_of_refuses (.forward offers misfits)
  case forwardOutcome call into =>
    by_cases fits : shape.Fits call
    · exact exhausts_of_fits serves known plain undertakes rfl fits
    · obtain ⟨err, misfits⟩ := Shape.exists_misfits fits
      exact exhausts_of_refuses (.forwardOutcome offers misfits into)

end Handle

/-- A result that is put into other words fails as it does. -/
theorem Action.failure?_return {α β : Type} (t : Action α) (f : α → β) (limits : Limits)
    (w : World) :
    failure? ((do return f (← t) : Action β) limits w).1 = failure? (t limits w).1 := by
  rw [bind_eq_resumed]
  rcases (t limits w).1 with (err | _) | a <;> rfl

open Handle (exhausts_of_refuses exhausts_of_calm exhausts_of_fits)

/-- A call by name that the handle does not answer itself. -/
theorem Handle.exhausts_of_invoke {h : Handle} {g : Gateway} {w : World} {t : Action Result}
    {shape : Shape} {overrides : List String} {call : Call} {into : Option Outcome.Kind}
    (offers : h.offers? = some (shape, overrides)) (serves : shape.Serves overrides g)
    (known : h.service? (.invoke call into) = some (h.steady t)) (plain : t.Plain)
    (undertakes : Undertakes g t (g.call? (.invoke call into)))
    (answered : call.name ∈ overrides → shape.Accepts overrides call →
      h.Exhausts g w (.invoke call into)) : h.Exhausts g w (.invoke call into) := by
  rcases Gateway.resolve_cases serves call with ⟨err, _, declines⟩ | ⟨remote, _, mirrored⟩
    | ⟨_, own, accepts⟩
  · exact exhausts_of_refuses (.invoke offers declines into)
  · have made : g.call? (.invoke call into) = some call := by
      unfold Gateway.call?
      dsimp only
      rw [remote]
    by_cases fits : shape.Fits call
    · exact exhausts_of_fits serves known plain undertakes made fits
    · obtain ⟨signature, mirrors⟩ := mirrored
      obtain ⟨err, misfits⟩ := Shape.exists_misfits fits
      cases misfits with
      | unknown absent => exact absurd mirrors (absent _)
      | unbound mirrors faulty =>
        exact exhausts_of_refuses (.invoke offers (.unbound mirrors faulty) into)
  · exact answered own accepts

/-! ## Clients -/

namespace Client

variable {c : Client} {w : World} {command : Command} {t : Action Result}

theorem service?_of_own (known : c.own? command = some t) :
    (Handle.client c).service? command = some ((Handle.client c).steady t) :=
  Handle.service?_of_own (congrArg (Option.map (Handle.client c).steady) known)

/-- A database that has a name is found or made. -/
theorem failure?_getDatabase {name : Option String} (named : ¬ (name = none ∨ name = some ""))
    (limits : Limits) : failure? (c.getDatabase name limits w).1 = none := by
  rcases name with _ | name
  · exact absurd (.inl rfl) named
  · unfold getDatabase
    dsimp only
    rw [if_neg fun empty => named (.inr (congrArg some empty))]
    unfold cached
    split <;> rfl

/-- Whoever wants a database gets it if there is a name. -/
theorem exhausts_of_wants {name : Option String} (wants : c.Wants command name) :
    (Handle.client c).Exhausts c.gateway w command := by
  by_cases empty : name = none ∨ name = some ""
  · exact exhausts_of_refuses (.client (.nameless wants empty))
  · obtain ⟨f, plain, served⟩ := wants.served
    refine exhausts_of_calm served (plain_bind fun d => plain_pure (plain d)) fun limits => ?_
    rw [failure?_return]
    exact failure?_getDatabase empty limits

/-- The same of the default database, if there is one. -/
theorem exhausts_of_wantsDefault {fallback : Option String}
    (wants : WantsDefault command fallback) :
    (Handle.client c).Exhausts c.gateway w command := by
  rcases set : c.options.defaultDatabase.or fallback with _ | name
  · exact exhausts_of_refuses (.client (.unset wants set))
  · exact exhausts_of_wants (.ofDefault wants set)

/-- A helper that is given what it does not refuse comes to the connection. -/
theorem exhausts_of_helper (known : c.own? command = some t) (helper : command.IsHelper)
    (acceptable : command.Acceptable) : (Handle.client c).Exhausts c.gateway w command := by
  obtain ⟨call, prepares⟩ := c.prepares known helper acceptable
  exact exhausts_of_fits c.serves (service?_of_own known) (own_plain known)
    (c.own_undertakes known) prepares.made prepares.served.1

/-- A call that a client accepts and answers itself. -/
theorem exhausts_of_answered {call : Call} {into : Option Outcome.Kind}
    (own : call.name ∈ localOperations) (accepts : Shape.client.Accepts localOperations call) :
    (Handle.client c).Exhausts c.gateway w (.invoke call into) := by
  have known : c.own? (.invoke call into) = some _ := rfl
  have calm
      (quiet : ∀ limits, failure? (c.answer call.name call.args call.kwargs limits w).1 = none) :
      (Handle.client c).Exhausts c.gateway w (.invoke call into) := by
    refine exhausts_of_calm (service?_of_own known) (own_plain known) fun limits => ?_
    rw [failure?_return, invoke_of_accepts own accepts]
    exact quiet limits
  have untyped {key : String} {v : Value} (takes : (call.name, key) ∈ textParameters)
      (mistypes : call.Mistypes key v) :
      (Handle.client c).Exhausts c.gateway w (.invoke call into) :=
    exhausts_of_refuses (.client (.untyped takes accepts mistypes))
  by_cases database : call.name = "get_database"
  · rcases call.names_or_mistypes "name" with ⟨name, names⟩ | ⟨v, mistypes⟩
    · exact exhausts_of_wants (.called database accepts names)
    · exact untyped (by rw [database]; decide) mistypes
  by_cases default : call.name = "get_default_database"
  · rcases call.names_or_mistypes "default" with ⟨fallback, names⟩ | ⟨v, mistypes⟩
    · exact exhausts_of_wantsDefault (.called default accepts names)
    · exact untyped (by rw [default]; decide) mistypes
  by_cases session : call.name = "start_session"
  · exact exhausts_of_refuses
      (.client (.session (.inr ⟨call, into, rfl, session, accepts⟩)))
  by_cases close : call.name = "close"
  · refine calm fun limits => ?_
    rw [close, answer_close]
    rfl
  · have absent : call.name ∈ absentOperations := by
      simpa [localOperations, database, default, session, close] using own
    refine calm fun limits => ?_
    unfold answer
    rw [if_neg database, if_neg default, if_neg session, if_neg close, if_pos absent]
    rfl

/-- Whatever a client knows of its own. -/
theorem own_exhausts (known : c.own? command = some t) (alone : ¬ command.BringsClient) :
    (Handle.client c).Exhausts c.gateway w command := by
  have helped := exhausts_of_helper (w := w) known
  have calm := exhausts_of_calm (g := c.gateway) (w := w) (service?_of_own known) (own_plain known)
  have undertakes := c.own_undertakes known
  have plain := own_plain known
  cases command <;> simp only [own?, Option.some.injEq, reduceCtorEq] at known <;> subst known
  case invoke call into =>
    exact Handle.exhausts_of_invoke rfl c.serves rfl plain undertakes exhausts_of_answered
  case getDatabase name => exact exhausts_of_wants (.getDatabase name)
  case get name => exact exhausts_of_wants (.get name)
  case member name =>
    by_cases secret : isPrivate name = true
    · exact exhausts_of_refuses (.client (.hidden secret))
    · exact exhausts_of_wants (.member (by simpa using secret))
  case defaultDatabase => exact exhausts_of_wantsDefault .helper
  case dropDatabase name =>
    by_cases empty : name = ""
    · subst empty
      exact exhausts_of_refuses (.client .undroppable)
    · exact helped trivial empty
  case listDatabases | listDatabaseNames | serverInfo | watch => exact helped trivial trivial
  case startSession => exact exhausts_of_refuses (.client (.session (.inl rfl)))
  case topology | close | isClosed | settings | clone => exact calm fun _ => rfl
  case newClient => exact absurd trivial alone

end Client

/-! ## Databases -/

namespace Database

variable {d : Database} {w : World} {command : Command} {t : Action Result}

theorem service?_of_own (known : d.own? command = some t) :
    (Handle.database d).service? command = some ((Handle.database d).steady t) :=
  Handle.service?_of_own (congrArg (Option.map (Handle.database d).steady) known)

/-- The client is told, unless no handle of it is left. -/
theorem failure?_client (left : d.owner.connection.client ∉ w.dropped) (limits : Limits) :
    failure? (d.client limits w).1 = none := by
  have kept : ¬ w.dropped.contains d.owner.connection.client = true :=
    fun gone => left (List.contains_iff_mem.mp gone)
  unfold client
  rw [bind_eq_resumed]
  show failure? ((if w.dropped.contains d.owner.connection.client = true then _ else _ :
    Action Client) limits w).1 = none
  rw [if_neg kept]
  rfl

/-- A collection that has a name is made. -/
theorem failure?_getCollection {name : String} (named : name ≠ "") (limits : Limits) :
    failure? (ofExcept (d.getCollection name) limits w).1 = none := by
  unfold getCollection
  rw [if_neg named]
  rfl

/-- A helper that is given what it does not refuse comes to the connection. -/
theorem exhausts_of_helper (known : d.own? command = some t) (helper : command.IsHelper)
    (acceptable : command.Acceptable) : (Handle.database d).Exhausts d.gateway w command := by
  obtain ⟨call, prepares⟩ := d.prepares known helper acceptable
  exact exhausts_of_fits d.serves (service?_of_own known) (own_plain known)
    (d.own_undertakes known) prepares.made prepares.served.1

/-- A call that a database accepts and answers itself. -/
theorem exhausts_of_answered {call : Call} {into : Option Outcome.Kind}
    (own : call.name ∈ localOperations) (accepts : Shape.database.Accepts localOperations call) :
    (Handle.database d).Exhausts d.gateway w (.invoke call into) := by
  have known : d.own? (.invoke call into) = some _ := rfl
  have calm
      (quiet : ∀ limits, failure? (d.invoke call.name call.args call.kwargs limits w).1 = none) :
      (Handle.database d).Exhausts d.gateway w (.invoke call into) := by
    refine exhausts_of_calm (service?_of_own known) (own_plain known) fun limits => ?_
    rw [failure?_return]
    exact quiet limits
  by_cases client : call.name = "client"
  · by_cases gone : d.owner.connection.client ∈ w.dropped
    · exact exhausts_of_refuses
        (.database (.orphaned (.inr ⟨call, into, rfl, client, accepts⟩) gone))
    · refine calm fun limits => ?_
      rw [invoke_client client accepts, failure?_return]
      exact failure?_client gone limits
  by_cases collection : call.name = "get_collection"
  · rcases call.names_or_mistypes "name" with ⟨name, names⟩ | ⟨v, mistypes⟩
    · by_cases empty : name.getD "" = ""
      · have wants : Wants (.invoke call into) (name.getD "") := .called collection accepts names
        rw [empty] at wants
        exact exhausts_of_refuses (.database (.nameless wants))
      · refine calm fun limits => ?_
        rw [invoke_getCollection collection accepts, textArgument_of_names names, bind_ofExcept_ok,
          failure?_return]
        exact failure?_getCollection empty limits
    · exact exhausts_of_refuses (.database (.untyped collection accepts mistypes))
  refine calm fun limits => ?_
  rw [invoke_of_accepts own accepts]
  unfold answer
  rw [if_neg client, if_neg collection]
  split
  · rfl
  next name =>
  split
  · rfl
  next options =>
  have absent : call.name ∈ absentOperations := by
    simpa [localOperations, client, collection, name, options] using own
  rw [if_pos absent]
  rfl

/-- Whatever a database knows of its own. -/
theorem own_exhausts (known : d.own? command = some t) :
    (Handle.database d).Exhausts d.gateway w command := by
  have helped := exhausts_of_helper (w := w) known
  have calm := exhausts_of_calm (g := d.gateway) (w := w) (service?_of_own known) (own_plain known)
  have undertakes := d.own_undertakes known
  have plain := own_plain known
  cases command <;> simp only [own?, Option.some.injEq, reduceCtorEq] at known <;> subst known
  case invoke call into =>
    exact Handle.exhausts_of_invoke rfl d.serves rfl plain undertakes exhausts_of_answered
  case name | describe => exact calm fun _ => rfl
  case client =>
    by_cases gone : d.owner.connection.client ∈ w.dropped
    · exact exhausts_of_refuses (.database (.orphaned (.inl rfl) gone))
    · refine calm fun limits => ?_
      rw [failure?_return]
      exact failure?_client gone limits
  case getCollection name =>
    by_cases empty : name = ""
    · subst empty
      exact exhausts_of_refuses (.database (.nameless (.getCollection "")))
    · refine calm fun limits => ?_
      rw [failure?_return]
      exact failure?_getCollection empty limits
  case member name =>
    by_cases secret : isPrivate name = true
    · exact exhausts_of_refuses (.database (.hidden secret))
    · by_cases empty : name = ""
      · subst empty
        exact exhausts_of_refuses (.database (.nameless (.member (by simpa using secret))))
      · refine calm fun limits => ?_
        have shown : d.attr name = d.getCollection name := if_neg secret
        rw [failure?_return, shown]
        exact failure?_getCollection empty limits
  case createCollection name =>
    by_cases empty : name = ""
    · subst empty
      exact exhausts_of_refuses (.database (.nameless (.createCollection "")))
    · exact helped trivial empty
  case dropCollection name =>
    by_cases empty : name = ""
    · subst empty
      exact exhausts_of_refuses (.database .undroppable)
    · exact helped trivial empty
  case listCollections | listCollectionNames | command | aggregate | watch =>
    exact helped trivial trivial

end Database

/-! ## Collections -/

namespace Collection

variable {c : Collection} {w : World} {command : Command} {t : Action Result}

theorem service?_of_own (known : c.own? command = some t) :
    (Handle.collection c).service? command = some ((Handle.collection c).steady t) :=
  Handle.service?_of_own (congrArg (Option.map (Handle.collection c).steady) known)

/-- A helper that is given what it does not refuse comes to the connection. -/
theorem exhausts_of_helper (known : c.own? command = some t) (helper : command.IsHelper)
    (acceptable : command.Acceptable) : (Handle.collection c).Exhausts c.gateway w command := by
  obtain ⟨call, prepares⟩ := c.prepares known helper acceptable
  exact exhausts_of_fits c.serves (service?_of_own known) (own_plain known)
    (c.own_undertakes known) prepares.made prepares.served.1

/-- A call that a collection accepts and answers itself succeeds. -/
theorem exhausts_of_answered {call : Call} {into : Option Outcome.Kind}
    (own : call.name ∈ localOperations) (accepts : Shape.collection.Accepts localOperations call) :
    (Handle.collection c).Exhausts c.gateway w (.invoke call into) := by
  have known : c.own? (.invoke call into) = some _ := rfl
  refine exhausts_of_calm (service?_of_own known) (own_plain known) fun limits => ?_
  have answered : c.invoke call.name call.args call.kwargs = c.answer call.name :=
    Gateway.invoke_of_accepts c.serves own accepts _
  rw [failure?_return, answered]
  unfold answer
  split
  · rfl
  next name =>
  split
  · rfl
  next full =>
  split
  · rfl
  next database =>
  split
  · rfl
  next options =>
  have absent : call.name ∈ Database.absentOperations := by
    simpa [localOperations, name, full, database, options] using own
  rw [if_pos absent]
  rfl

/-- Whatever a collection knows of its own. -/
theorem own_exhausts (known : c.own? command = some t) :
    (Handle.collection c).Exhausts c.gateway w command := by
  have helped := exhausts_of_helper (w := w) known
  have calm := exhausts_of_calm (g := c.gateway) (w := w) (service?_of_own known) (own_plain known)
  have undertakes := c.own_undertakes known
  have plain := own_plain known
  cases command <;> simp only [own?, Option.some.injEq, reduceCtorEq] at known <;> subst known
  case invoke call into =>
    exact Handle.exhausts_of_invoke rfl c.serves rfl plain undertakes exhausts_of_answered
  case name | fullName | describe | database => exact calm fun _ => rfl
  case find filter options =>
    by_cases large : ∃ n, (FindOptions.ofList options).skip = some n ∧ 9223372036854775807 < n
    · obtain ⟨n, skips, large⟩ := large
      exact exhausts_of_refuses (.collection (.skip skips large))
    · exact helped trivial fun n skips => Nat.le_of_not_lt fun lt => large ⟨n, skips, lt⟩
  all_goals exact helped trivial trivial

end Collection

end RemoteDriver
