import RemoteDriver.Proofs.Surface.Helpers
import RemoteDriver.Session.Step

/-!
# Kinds of replies

A reply is a value, a result set or a subscription, and a typed helper expects one of the three
(`Command.expects`).  A helper that reads its reply takes no other kind: it fails with an error of
the response, which names the operation and both kinds (`Demands`).

Three helpers do not read their replies, since they have nothing to bring: whatever kind comes, they
succeed (`Disregards`).  A result set that the remote side has opened for them is left behind
(`dropping_disregards_a_cursor`).

The main statement, `helpers_check_replies_they_read`, says so of all typed helpers.
-/

namespace RemoteDriver

open Bson (Document Value)
open RemoteDriver.Action

/-! ## What helpers expect -/

/-- The kind of reply that the result of a helper is made of. -/
def Command.expects : Command → Response.Kind
  | .listDatabases _ | .listCollections _ | .aggregate _ | .find _ _ | .listIndexes => .cursor
  | .watch _ => .stream
  | _ => .value

/-- The helpers that do not read their reply. -/
def Command.Disregards : Command → Prop
  | .dropDatabase _ | .createCollection _ | .dropCollection _ => True
  | _ => False

/-- A call that is forwarded is answered in time: its client is open, its values have a form on the
wire, and the body that comes back decodes to a reply. -/
structure Answered (g : Gateway) (call : Call) (limits : Limits) (w : World) (reply : Reply) :
    Prop where
  /-- The client is open. -/
  isOpen : w.isClosed g.connection.client = false
  /-- The call can be sent. -/
  encodes : call.Encodes g.connection.codec
  /-- What comes back is a reply. -/
  comes : ∃ body delay, (w.remote.answer g.sender call.name).1 = ⟨some (.body body), delay⟩
    ∧ w.now + delay ≤ max w.now limits.deadline
    ∧ Reply.decode g.connection.codec call.name body = .ok reply

/-- How a helper that comes down to a call takes replies. -/
structure TakesReplies (g : Gateway) (command : Command) (helper : Action Result) (call : Call) :
    Prop where
  /-- This is the call that the command comes down to. -/
  made : g.call? command = some call
  /-- A reply of another kind than it expects is an error of the response to the operation. -/
  demands : ¬ command.Disregards → ∀ limits w reply, Answered g call limits w reply →
    reply.kind ≠ command.expects → (helper limits w).1
      = .error (.failed (Reply.unexpected call.name command.expects reply))
  /-- A helper that does not read its reply succeeds with every reply. -/
  disregards : command.Disregards → ∀ limits w reply, Answered g call limits w reply →
    ∃ r, (helper limits w).1 = .ok r

/-! ## Reading replies -/

/-- What is read of the reply to a call is an error of the response unless it is of a kind. -/
def Demands {α : Type} (g : Gateway) (t : Action α) (call : Call) (kind : Response.Kind) : Prop :=
  ∃ f : Reply → Action α, t = (do f (← g.forward call.name call.args call.kwargs))
    ∧ ∀ reply, reply.kind ≠ kind → f reply = fail (Reply.unexpected call.name kind reply)

/-- The reply to a call is not read. -/
def Disregards {α : Type} (g : Gateway) (t : Action α) (call : Call) : Prop :=
  ∃ a, t = (do let _ ← g.forward call.name call.args call.kwargs; return a)

section demands

variable {α β : Type} {g : Gateway} {t : Action α} {call : Call} {kind : Response.Kind}

/-- What follows a reading does not change what is read. -/
theorem Demands.andThen (h : Demands g t call kind) (f : α → Action β) :
    Demands g (t >>= f) call kind := by
  obtain ⟨read, same, refuses⟩ := h
  refine ⟨fun reply => read reply >>= f, ?_, fun reply other => ?_⟩
  · rw [same, bind_assoc]
  · show read reply >>= f = _
    rw [refuses reply other]
    rfl

/-- A result that is put into other words. -/
theorem Demands.return (h : Demands g t call kind) (f : α → β) :
    Demands g (do return f (← t)) call kind := h.andThen fun a => pure (f a)

/-- What is not read is not read for another result either. -/
theorem Disregards.return (h : Disregards g t call) (f : α → β) :
    Disregards g (do return f (← t)) call := by
  obtain ⟨a, same⟩ := h
  refine ⟨f a, ?_⟩
  rw [same, bind_assoc]
  rfl

end demands

namespace Gateway

variable (g : Gateway) (name : String) (args : List Value) (kwargs : Document)

/-- A call for a value takes nothing but a value. -/
theorem value_demands : Demands g (g.value name args kwargs) ⟨name, args, kwargs⟩ .value := by
  refine ⟨fun reply => ofExcept (reply.toValue name), rfl, fun reply other => ?_⟩
  cases reply with
  | value v => exact absurd rfl other
  | cursor seed | stream seed => rfl

/-- A call for a cursor takes nothing but a result set. -/
theorem cursor_demands : Demands g (g.cursor name args kwargs) ⟨name, args, kwargs⟩ .cursor := by
  refine ⟨fun reply => do g.openCursor (← ofExcept (reply.toCursor name)), rfl,
    fun reply other => ?_⟩
  cases reply with
  | cursor seed => exact absurd rfl other
  | value v | stream seed => rfl

/-- A call for a change stream takes nothing but a subscription. -/
theorem stream_demands : Demands g (g.stream name args kwargs) ⟨name, args, kwargs⟩ .stream := by
  refine ⟨fun reply => do g.openStream (← ofExcept (reply.toStream name)), rfl,
    fun reply other => ?_⟩
  cases reply with
  | stream seed => exact absurd rfl other
  | value v | cursor seed => rfl

/-- A stream of the changes is made of nothing but a subscription. -/
theorem watch_demands (pipeline : Option (List Document)) :
    Demands g (g.watch pipeline) ⟨"watch", stages pipeline, []⟩ .stream :=
  g.stream_demands "watch" (stages pipeline) []

/-- A call whose result is known before its reply takes any reply. -/
theorem disregards {α : Type} (a : α) :
    Disregards g (do let _ ← g.forward name args kwargs; return a) ⟨name, args, kwargs⟩ :=
  ⟨a, rfl⟩

end Gateway

/-! ## Replies that come -/

/-- A call that is answered has the reply as its result. -/
theorem Answered.dispatch {g : Gateway} {call : Call} {limits : Limits} {w : World} {reply : Reply}
    (answered : Answered g call limits w reply) :
    ∃ w', g.connection.dispatch g.sender call g.route limits w = (.ok reply, w') := by
  obtain ⟨args, kwargs, encodes⟩ := answered.encodes
  obtain ⟨body, delay, comes, inTime, decodes⟩ := answered.comes
  have made : Envelope.ofCall g.connection.codec call g.route
      = .ok ⟨call.name, args, kwargs, g.route⟩ :=
    Envelope.ofCall_eq_ok.mpr ⟨args, kwargs, encodes, rfl⟩
  rcases answer : w.remote.answer g.sender call.name with ⟨a, remote⟩
  have comes : a = ⟨some (.body body), delay⟩ := by rw [← comes, answer]
  unfold Connection.dispatch Action.post
  rw [answered.isOpen, if_neg Bool.false_ne_true, made]
  dsimp only [Connection.request]
  rw [answer, comes]
  dsimp only
  rw [if_pos inTime]
  dsimp only [Connection.received]
  rw [decodes]
  exact ⟨_, rfl⟩

section answered

variable {shape : Shape} {overrides : List String} {g : Gateway} {helper : Action Result}
  {call : Call} {command : Command}

/-- A helper that prepares a call and reads its reply, or does not, takes replies so. -/
theorem Prepares.takesReplies (prepares : Prepares shape overrides g command helper call)
    (serves : shape.Serves overrides g)
    (demands : ¬ command.Disregards → Demands g helper call command.expects)
    (disregards : command.Disregards → Disregards g helper call) :
    TakesReplies g command helper call := by
  have forwarded : g.forward call.name call.args call.kwargs
      = g.connection.dispatch g.sender call g.route :=
    Gateway.forward_of_fits serves prepares.served.1
  refine ⟨prepares.made, fun reads limits w reply answered other => ?_,
    fun ignores limits w reply answered => ?_⟩
  · obtain ⟨w', came⟩ := answered.dispatch
    obtain ⟨f, same, refuses⟩ := demands reads
    rw [same, bind_eq_resumed, forwarded, came]
    show (f reply limits w').1 = _
    rw [refuses reply other]
    rfl
  · obtain ⟨w', came⟩ := answered.dispatch
    obtain ⟨r, same⟩ := disregards ignores
    rw [same, bind_eq_resumed, forwarded, came]
    exact ⟨r, rfl⟩

end answered

/-! ## Clients, databases and collections -/

namespace Client

/-- The helpers of a client that read their replies. -/
theorem own_demands (c : Client) {command : Command} {t : Action Result} {call : Call}
    (known : c.own? command = some t) (helper : command.IsHelper) (reads : ¬ command.Disregards)
    (made : c.gateway.call? command = some call) :
    Demands c.gateway t call command.expects := by
  cases command <;> simp only [own?, Option.some.injEq, reduceCtorEq] at known <;> subst known
  case listDatabases filter =>
    cases made
    exact (c.gateway.cursor_demands _ _ _).return _
  case listDatabaseNames =>
    cases made
    exact ((c.gateway.value_demands _ _ _).andThen _).return _
  case serverInfo =>
    cases made
    exact ((c.gateway.value_demands _ _ _).andThen _).return _
  case watch pipeline =>
    cases made
    exact (c.gateway.watch_demands pipeline).return _
  case dropDatabase => exact absurd trivial reads
  all_goals exact helper.elim

/-- The helpers of a client that do not. -/
theorem own_disregards (c : Client) {command : Command} {t : Action Result} {call : Call}
    (known : c.own? command = some t) (ignores : command.Disregards)
    (acceptable : command.Acceptable) (made : c.gateway.call? command = some call) :
    Disregards c.gateway t call := by
  cases command <;> simp only [own?, Option.some.injEq, reduceCtorEq] at known <;> subst known
  case dropDatabase name =>
    cases (if_neg acceptable).symm.trans made
    unfold dropDatabase
    rw [if_neg acceptable]
    have forwards := c.gateway.disregards "drop_database" [.string name] [] ()
    exact forwards.return fun _ => Result.done
  all_goals exact ignores.elim

/-- Each helper of a client takes the replies of its kind, or does not read any. -/
theorem takesReplies (c : Client) {command : Command} {t : Action Result}
    (known : c.own? command = some t) (helper : command.IsHelper)
    (acceptable : command.Acceptable) : ∃ call, TakesReplies c.gateway command t call := by
  obtain ⟨call, prepares⟩ := c.prepares known helper acceptable
  exact ⟨call, prepares.takesReplies c.serves
    (fun reads => c.own_demands known helper reads prepares.made)
    (fun ignores => c.own_disregards known ignores acceptable prepares.made)⟩

end Client

namespace Database

/-- The helpers of a database that read their replies. -/
theorem own_demands (d : Database) {command : Command} {t : Action Result} {call : Call}
    (known : d.own? command = some t) (helper : command.IsHelper) (reads : ¬ command.Disregards)
    (made : d.gateway.call? command = some call) :
    Demands d.gateway t call command.expects := by
  cases command <;> simp only [own?, Option.some.injEq, reduceCtorEq] at known <;> subst known
  case listCollections filter =>
    cases made
    exact (d.gateway.cursor_demands _ _ _).return _
  case listCollectionNames filter =>
    cases made
    exact ((d.gateway.value_demands _ _ _).andThen _).return _
  case command command =>
    cases made
    exact ((d.gateway.value_demands _ _ _).andThen _).return _
  case aggregate pipeline =>
    cases made
    exact (d.gateway.cursor_demands _ _ _).return _
  case watch pipeline =>
    cases made
    exact (d.gateway.watch_demands pipeline).return _
  case createCollection | dropCollection => exact absurd trivial reads
  all_goals exact helper.elim

/-- The helpers of a database that do not. -/
theorem own_disregards (d : Database) {command : Command} {t : Action Result} {call : Call}
    (known : d.own? command = some t) (ignores : command.Disregards)
    (acceptable : command.Acceptable) (made : d.gateway.call? command = some call) :
    Disregards d.gateway t call := by
  cases command <;> simp only [own?, Option.some.injEq, reduceCtorEq] at known <;> subst known
  case createCollection name =>
    cases (if_neg acceptable).symm.trans made
    unfold createCollection getCollection
    rw [if_neg acceptable, bind_ofExcept_ok]
    have forwards := d.gateway.disregards "create_collection" [.string name] []
      (Collection.mk d name)
    exact forwards.return fun collection => Result.handle (.collection collection)
  case dropCollection name =>
    cases (if_neg acceptable).symm.trans made
    unfold dropCollection
    rw [if_neg acceptable]
    have forwards := d.gateway.disregards "drop_collection" [.string name] [] ()
    exact forwards.return fun _ => Result.done
  all_goals exact ignores.elim

/-- Each helper of a database takes the replies of its kind, or does not read any. -/
theorem takesReplies (d : Database) {command : Command} {t : Action Result}
    (known : d.own? command = some t) (helper : command.IsHelper)
    (acceptable : command.Acceptable) : ∃ call, TakesReplies d.gateway command t call := by
  obtain ⟨call, prepares⟩ := d.prepares known helper acceptable
  exact ⟨call, prepares.takesReplies d.serves
    (fun reads => d.own_demands known helper reads prepares.made)
    (fun ignores => d.own_disregards known ignores acceptable prepares.made)⟩

end Database

namespace Collection

/-- A helper of a collection that reads its result takes nothing but a value. -/
theorem result_demands (c : Collection) (operation : String) (args : List Value)
    (kwargs : Document) :
    Demands c.gateway (c.result operation args kwargs) ⟨operation, args, kwargs⟩ .value :=
  (c.gateway.value_demands _ _ _).andThen _

/-- An update takes nothing but a value. -/
theorem update_demands (c : Collection) (operation : String) (filter update : Document)
    (options : UpdateOptions) : Demands c.gateway (c.update operation filter update options)
      ⟨operation, [.document filter, .document update], options.toKwargs⟩ .value :=
  (c.result_demands _ _ _).andThen _

/-- The helpers of a collection, which all read their replies. -/
theorem own_demands (c : Collection) {command : Command} {t : Action Result} {call : Call}
    (known : c.own? command = some t) (helper : command.IsHelper)
    (made : c.gateway.call? command = some call) :
    Demands c.gateway t call command.expects := by
  cases command <;> simp only [own?, Option.some.injEq, reduceCtorEq] at known <;> subst known
  case insertOne | insertMany =>
    cases made
    exact ((c.result_demands _ _ _).return _).return _
  case find filter options =>
    unfold Gateway.call? at made
    dsimp only at made
    unfold Collection.find
    rcases given : (FindOptions.ofList options).toKwargs with err | kwargs
    · rw [given] at made
      cases made
    · rw [given] at made
      cases made
      rw [bind_ofExcept_ok]
      exact (c.gateway.cursor_demands _ _ _).return _
  case updateOne | updateMany | replaceOne =>
    cases made
    exact (c.update_demands _ _ _ _).return _
  case deleteOne | deleteMany =>
    cases made
    exact ((c.result_demands _ _ _).andThen _).return _
  case findOne | countDocuments | estimatedDocumentCount | distinct | createIndex =>
    cases made
    exact ((c.gateway.value_demands _ _ _).andThen _).return _
  case aggregate | listIndexes =>
    cases made
    exact (c.gateway.cursor_demands _ _ _).return _
  case watch pipeline =>
    cases made
    exact (c.gateway.watch_demands pipeline).return _
  case dropIndex | drop =>
    cases made
    exact ((c.gateway.value_demands _ _ _).andThen _).andThen _
  all_goals exact helper.elim

/-- A collection has no helper that disregards its reply. -/
theorem reads_of_known (c : Collection) {command : Command} {t : Action Result}
    (known : c.own? command = some t) : ¬ command.Disregards := by
  cases command <;> first | exact id | cases known

/-- Each helper of a collection takes the replies of its kind. -/
theorem takesReplies (c : Collection) {command : Command} {t : Action Result}
    (known : c.own? command = some t) (helper : command.IsHelper)
    (acceptable : command.Acceptable) : ∃ call, TakesReplies c.gateway command t call := by
  obtain ⟨call, prepares⟩ := c.prepares known helper acceptable
  exact ⟨call, prepares.takesReplies c.serves
    (fun _ => c.own_demands known helper prepares.made)
    (fun ignores => absurd ignores (c.reads_of_known known))⟩

end Collection

/-! ## All helpers -/

/-- Every typed helper that reads its reply refuses a reply of another kind than it expects, with an
error of the response that names the operation; the others succeed whatever kind comes. -/
theorem helpers_check_replies_they_read (client : Client) (database : Database)
    (collection : Collection) (command : Command) :
    (∀ t, client.own? command = some t → command.IsHelper → command.Acceptable →
        ∃ call, TakesReplies client.gateway command t call)
      ∧ (∀ t, database.own? command = some t → command.IsHelper → command.Acceptable →
        ∃ call, TakesReplies database.gateway command t call)
      ∧ ∀ t, collection.own? command = some t → command.IsHelper → command.Acceptable →
        ∃ call, TakesReplies collection.gateway command t call :=
  ⟨fun _ => client.takesReplies, fun _ => database.takesReplies, fun _ => collection.takesReplies⟩

/-- A remote side that opens an empty result set for an operation. -/
def Remote.opening (operation : String) : Remote :=
  .ofScript [(operation, ⟨some (.body (.object [("kind", .string "cursor"),
    ("payload", .object [("cursor_id", .string "token"), ("batch", .array [])])])), 0⟩)]

/-- Names of databases are not read of a result set. -/
theorem names_are_not_read_of_a_cursor :
    ∃ c t, Client.ofOptions 0 "http://h/" [] .standard = .ok c
      ∧ c.own? .listDatabaseNames = some t
      ∧ (t ⟨0, none⟩ (.start (.opening "list_database_names"))).1
        = .error (.failed (.protocol "list_database_names"
          "expected a value reply, got cursor")) := by
  have readable : (Endpoint.urlOfText "http://h/").toOption.isSome = true := by decide +kernel
  unfold Client.ofOptions
  rcases read : Endpoint.urlOfText "http://h/" with e | url
  · rw [read] at readable
    cases readable
  · let client : Client := ⟨⟨0, ⟨url, []⟩, Options.standard.codec,
      Options.standard.changeStreamTimeout⟩, .standard⟩
    have checks := helpers_check_replies_they_read client ⟨client, "app", 0⟩
      ⟨⟨client, "app", 0⟩, "items"⟩ .listDatabaseNames
    obtain ⟨call, takes⟩ := checks.1 _ rfl trivial trivial
    refine ⟨client, _, rfl, rfl, ?_⟩
    have made := takes.made
    cases made
    exact takes.demands id ⟨0, none⟩ _ (.cursor ⟨some "token", [], none⟩)
      ⟨rfl, ⟨[], [], rfl, rfl⟩, _, _, rfl, by decide, rfl⟩ (by decide)

/-- A step is done, and posted requests for these operations. -/
def Report.isDone (r : Report) (operations : List String) : Bool :=
  (match r.verdict with
    | .result .done => true
    | _ => false) && decide (r.posted.map (·.envelope.operation) = operations)

/-- A database is dropped, for all that is told, while the remote side opens a result set. -/
theorem dropping_disregards_a_cursor :
    ((Session.start (.opening "drop_database") "client"
      ⟨"http://h/", [], some .standard⟩).toOption.map fun s =>
        (s.step ⟨"client", .dropDatabase "app", none, none, none⟩).1.isDone ["drop_database"])
      = some true := by
  decide +kernel

end RemoteDriver
