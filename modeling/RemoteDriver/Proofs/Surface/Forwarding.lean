import RemoteDriver.Proofs.Surface.Helpers
import RemoteDriver.Session.Step

/-!
# Names that handles answer themselves

Clients, databases and collections answer some names themselves.  Calls by name and typed helpers
keep to that: they post no request under such a name, and a call of such a name is served on the
spot.  Sessions and closing have such names, so a client serves them on the spot, whichever way they
are asked for (`Client.ServesAlone`).

Forwarding does not ask who answers a name.  A call that fits what the shape mirrors is posted even
where the handle would answer this name itself, and this is the only way round (`Keeps`); so the
start of a session can be posted (`session_start_is_posted`).

The main statement, `overrides_hold_but_for_forwarding`, says so of clients, databases and
collections.
-/

namespace RemoteDriver

open Bson (Document Value)
open World (Still)
open RemoteDriver.Action

/-! ## Commands -/

/-- The call that a command forwards as it stands. -/
def Command.forwarded? : Command → Option Call
  | .forward call => some call
  | .forwardOutcome call _ => some call
  | _ => none

/-- A session is to be started, by the helper or by name. -/
def Command.StartsSession : Command → Prop
  | .startSession => True
  | .invoke call _ => call.name = "start_session"
  | _ => False

/-- A client is to be closed, by the helper or by name. -/
def Command.Closes : Command → Prop
  | .close => True
  | .invoke call _ => call.name = "close"
  | _ => False

/-- What a handle makes of commands keeps to the names that the handle answers itself, but for
calls that are forwarded. -/
structure Keeps (shape : Shape) (overrides : List String) (g : Gateway)
    (service? : Command → Option Service) : Prop where
  /-- A request under such a name is a call of this name that fits and that is forwarded. -/
  spares : ∀ command service limits w, service? command = some service →
    ∃ requests, (service limits w).2.2.posted = w.posted ++ requests
      ∧ ∀ r ∈ requests, r.envelope.operation ∈ overrides →
        ∃ call, command.forwarded? = some call ∧ r.envelope.operation = call.name
          ∧ shape.Fits call
  /-- A call by such a name is served on the spot. -/
  answers : ∀ call into service limits w, service? (.invoke call into) = some service →
    call.name ∈ overrides → Still w (service limits w).2.2
  /-- A call that is forwarded on an open client is posted if it fits, whoever answers its name, and
  its values have a form on the wire. -/
  forwards : ∀ command call service limits w, service? command = some service →
    command.forwarded? = some call → w.isClosed g.connection.client = false →
      shape.Fits call → ∀ args kwargs, call.EncodesAs g.connection.codec args kwargs →
        (service limits w).2.2.posted
          = w.posted ++ [g.connection.request ⟨call.name, args, kwargs, g.route⟩]
  /-- Otherwise nothing is posted. -/
  refuses : ∀ command call service limits w, service? command = some service →
    command.forwarded? = some call → ¬ (shape.Fits call ∧ call.Encodes g.connection.codec) →
      (service limits w).2.2.posted = w.posted

/-- A client serves sessions and its closing alone. -/
structure Client.ServesAlone (c : Client) : Prop where
  /-- The start of a session is misuse, and everything stays as it was. -/
  session : ∀ command service limits w, command.StartsSession →
    (Handle.client c).service? command = some service →
      ∃ message, service limits w
        = (.error (.failed (.usage "start_session" message)), some (.client c), w)
  /-- Closing is misuse, if it is called in a way that does not fit, or the client is closed. -/
  close : ∀ command service limits w, command.Closes →
    (Handle.client c).service? command = some service →
      (∃ message, service limits w
        = (.error (.failed (.usage "close" message)), some (.client c), w))
        ∨ ∃ r, service limits w = (.ok r, some (.client c), w.close c.connection.client)

/-! ## What is undertaken -/

/-- What comes down to a call posts this call or nothing; what comes down to none posts nothing. -/
theorem Undertakes.posts {α : Type} {g : Gateway} {t : Action α} {call? : Option Call}
    (h : Undertakes g t call?) (limits : Limits) (w : World) :
    (t limits w).2.posted = w.posted
      ∨ ∃ call args kwargs, call? = some call ∧ (t limits w).2.posted
        = w.posted ++ [g.connection.request ⟨call.name, args, kwargs, g.route⟩] := by
  rcases call? with _ | call
  · cases h with
    | answers quiet => exact .inl (quiet.still limits w).posted
  · rw [(h.still limits w).posted]
    rcases g.forward_refused_or_sent call limits w
      with ⟨message, refused⟩ | ⟨e, w', carries, sends, sent⟩
    · rw [refused]
      exact .inl rfl
    · obtain ⟨envelope, made, request⟩ := carries.request
      obtain ⟨args, kwargs, _, rfl⟩ := Envelope.ofCall_eq_ok.mp made
      rw [sent, sends.posted, List.map_singleton, request]
      exact .inr ⟨call, args, kwargs, rfl, rfl⟩

namespace Gateway

/-- The operations that typed helpers call. -/
def helped : List String :=
  (Shape.clientForms ++ Shape.databaseForms ++ Shape.collectionForms).map (·.1) ++ ["find"]

variable {shape : Shape} {overrides : List String} {g : Gateway} {command : Command} {call : Call}

/-- A command comes down to a call that it forwards, to a call by a name that is left to the remote
side, or to what a typed helper calls. -/
theorem call?_cases (made : g.call? command = some call) :
    command.forwarded? = some call
      ∨ g.resolve call.name call.args call.kwargs = .ok .remote
      ∨ call.name ∈ helped := by
  cases command <;> simp only [call?, reduceCtorEq] at made
  case forward | forwardOutcome => exact .inl made
  case invoke =>
    split at made
    · next remote =>
      cases made
      exact .inr (.inl remote)
    · cases made
  case dropDatabase | createCollection | dropCollection =>
    split at made <;> cases made
    exact .inr (.inr (List.contains_iff_mem.mp rfl))
  case find =>
    split at made <;> cases made
    exact .inr (.inr (List.contains_iff_mem.mp rfl))
  all_goals
    cases made
    exact .inr (.inr (List.contains_iff_mem.mp rfl))

/-- A call that is passed through comes down to itself. -/
theorem call?_of_forwarded (g : Gateway) (forwarded : command.forwarded? = some call) :
    g.call? command = some call := by
  cases command <;> cases forwarded <;> rfl

/-- A call of a name that the handle answers itself is not left to the remote side. -/
theorem resolve_ne_remote_of_mem (serves : shape.Serves overrides g) (own : call.name ∈ overrides) :
    g.resolve call.name call.args call.kwargs ≠ .ok .remote := by
  have overridden : g.surface.isOverridden call.name = true := by
    rw [serves.built]
    exact Surface.isOverridden_of_mem own
  exact resolve_ne_remote_of_overridden overridden call.args call.kwargs

/-- A handle that stays what it is, and that undertakes whatever it is asked, keeps to its own
names if no typed helper calls them. -/
theorem keeps {h : Handle} (serves : shape.Serves overrides g)
    (others : ∀ name ∈ helped, name ∉ overrides)
    (undertakes : ∀ command service, h.service? command = some service →
      ∃ t, service = h.steady t ∧ Undertakes g t (g.call? command)) :
    Keeps shape overrides g h.service? := by
  have forwarded {command : Command} {call : Call} {service : Service}
      (known : h.service? command = some service) (forwarded : command.forwarded? = some call)
      (limits : Limits) (w : World) : (service limits w).2.2.posted
        = (g.forward call.name call.args call.kwargs limits w).2.posted := by
    obtain ⟨t, rfl, undertaken⟩ := undertakes command service known
    rw [g.call?_of_forwarded forwarded] at undertaken
    exact (undertaken.still limits w).posted
  have refused {call : Call} (not : ¬ (shape.Fits call ∧ call.Encodes g.connection.codec))
      (limits : Limits) (w : World) :
      (g.forward call.name call.args call.kwargs limits w).2.posted = w.posted := by
    by_cases fits : shape.Fits call
    · rw [forward_of_fits serves fits]
      exact g.connection.posted_dispatch_of_not_encodes g.sender g.route limits
        fun encodes => not ⟨fits, encodes⟩
    · obtain ⟨message, fails⟩ := forward_of_not_fits serves fits
      rw [fails]
      rfl
  constructor
  · intro command service limits w known
    obtain ⟨t, rfl, undertaken⟩ := undertakes command service known
    rcases undertaken.posts limits w with nothing | ⟨call, args, kwargs, made, posted⟩
    · exact ⟨[], nothing.trans (List.append_nil _).symm, by simp⟩
    · refine ⟨_, posted, fun r member own => ?_⟩
      cases List.mem_singleton.mp member
      rcases call?_cases made with forwards | remote | listed
      · refine ⟨call, forwards, rfl, Classical.byContradiction fun misfits => ?_⟩
        have still := (forwarded known forwards limits w).trans
          (refused (fun sent => misfits sent.1) limits w)
        have grown : w.posted ++ _ = w.posted := posted.symm.trans still
        simp at grown
      · exact absurd remote (resolve_ne_remote_of_mem serves own)
      · exact absurd own (others call.name listed)
  · intro call into service limits w known own
    obtain ⟨t, rfl, undertaken⟩ := undertakes _ service known
    rw [g.call?_invoke (resolve_ne_remote_of_mem serves own) into] at undertaken
    cases undertaken with
    | answers quiet => exact quiet.still limits w
  · intro command call service limits w known forwards isOpen fits args kwargs encodes
    rw [forwarded known forwards limits w, forward_of_fits serves fits]
    exact g.connection.posted_dispatch_of_encodes g.sender g.route limits isOpen encodes
  · intro command call service limits w known forwards not
    rw [forwarded known forwards limits w]
    exact refused not limits w

end Gateway

/-! ## Clients, databases and collections -/

namespace Handle

/-- What a handle that stays what it is makes of a command, from what it makes of the commands that
not all handles know. -/
theorem service_undertakes {h : Handle} {g : Gateway} (own? : Command → Option (Action Result))
    (operates : h.gateway? = some g)
    (same : ∀ command, h.own? command = (own? command).map h.steady)
    (undertakes : ∀ command t, own? command = some t → Undertakes g t (g.call? command))
    (command : Command) (service : Service) (known : h.service? command = some service) :
    ∃ t, service = h.steady t ∧ Undertakes g t (g.call? command) := by
  unfold service? at known
  rw [operates] at known
  rcases common : common? g command with _ | t
  · rw [Option.bind_some, common] at known
    obtain ⟨t, own, rfl⟩ := Option.map_eq_some_iff.mp ((same command).symm.trans known)
    exact ⟨t, rfl, undertakes command t own⟩
  · rw [Option.bind_some, common] at known
    cases known
    exact ⟨t, rfl, g.common_undertakes common⟩

end Handle

/-- A client keeps to the names that it answers itself. -/
theorem Client.keeps (c : Client) :
    Keeps .client localOperations c.gateway (Handle.client c).service? :=
  Gateway.keeps c.serves (by decide) <| Handle.service_undertakes c.own? rfl (fun _ => rfl)
    fun _ _ => c.own_undertakes

/-- A database keeps to the names that it answers itself. -/
theorem Database.keeps (d : Database) :
    Keeps .database localOperations d.gateway (Handle.database d).service? :=
  Gateway.keeps d.serves (by decide) <| Handle.service_undertakes d.own? rfl (fun _ => rfl)
    fun _ _ => d.own_undertakes

/-- A collection keeps to the names that it answers itself. -/
theorem Collection.keeps (c : Collection) :
    Keeps .collection localOperations c.gateway (Handle.collection c).service? :=
  Gateway.keeps c.serves (by decide) <| Handle.service_undertakes c.own? rfl (fun _ => rfl)
    fun _ _ => c.own_undertakes

namespace Client

/-- A client refuses or answers a call of a name of its own, and a refusal is misuse. -/
theorem invoke_refused_or_answered (c : Client) {name : String} (own : name ∈ localOperations)
    (args : List Value) (kwargs : Document) :
    (∃ message, c.invoke name args kwargs = Action.fail (.usage name message))
      ∨ c.invoke name args kwargs = c.answer name args kwargs := by
  have overridden : surface.isOverridden name = true := Surface.isOverridden_of_mem own
  have notRemote : c.gateway.resolve name args kwargs ≠ .ok .remote :=
    Gateway.resolve_ne_remote_of_overridden overridden args kwargs
  unfold invoke Gateway.invoke
  rcases resolved : c.gateway.resolve name args kwargs with e | _ | _
  · obtain ⟨message, rfl⟩ := Gateway.resolve_error resolved
    exact .inl ⟨message, rfl⟩
  · exact absurd resolved notRemote
  · exact .inr rfl

/-- The call by name begins a session as the operation does. -/
theorem answer_startSession (c : Client) (args : List Value) (kwargs : Document) :
    c.answer "start_session" args kwargs = c.startSession := by
  unfold answer
  rw [if_neg (by decide), if_neg (by decide), if_pos rfl]

/-- A client serves sessions and closing on the spot, whichever way they are asked for. -/
theorem servesAlone (c : Client) : c.ServesAlone := by
  constructor
  · intro command service limits w starts known
    cases command with
    | startSession =>
      cases known
      exact ⟨_, rfl⟩
    | invoke call into =>
      cases known
      obtain ⟨name, args, kwargs⟩ := call
      cases starts
      show ∃ message, (Handle.client c).steady (do
        return .ofOutcome (← c.invoke "start_session" args kwargs) into) limits w = _
      have own : "start_session" ∈ localOperations := by decide
      rcases c.invoke_refused_or_answered own args kwargs with ⟨message, refused⟩ | answered
      · rw [refused]
        exact ⟨message, rfl⟩
      · rw [answered, c.answer_startSession]
        exact ⟨_, rfl⟩
    | _ => exact absurd starts id
  · intro command service limits w closes known
    cases command with
    | close =>
      cases known
      exact .inr ⟨_, rfl⟩
    | invoke call into =>
      cases known
      obtain ⟨name, args, kwargs⟩ := call
      cases closes
      show (∃ message, (Handle.client c).steady (do
        return .ofOutcome (← c.invoke "close" args kwargs) into) limits w = _) ∨ _
      have own : "close" ∈ localOperations := by decide
      rcases c.invoke_refused_or_answered own args kwargs with ⟨message, refused⟩ | answered
      · rw [refused]
        exact .inl ⟨message, rfl⟩
      · right
        show ∃ r, (Handle.client c).steady (do
          return .ofOutcome (← c.invoke "close" args kwargs) into) limits w = _
        rw [answered, c.answer_close]
        exact ⟨_, rfl⟩
    | _ => exact absurd closes id

end Client

/-! ## All three -/

/-- The names that clients, databases and collections answer themselves are never posted, unless a
call is forwarded as it stands; and clients serve sessions and their closing alone. -/
theorem overrides_hold_but_for_forwarding (client : Client) (database : Database)
    (collection : Collection) :
    (Keeps .client Client.localOperations client.gateway (Handle.client client).service?
        ∧ client.ServesAlone)
      ∧ Keeps .database Database.localOperations database.gateway
        (Handle.database database).service?
      ∧ Keeps .collection Collection.localOperations collection.gateway
        (Handle.collection collection).service? :=
  ⟨⟨client.keeps, client.servesAlone⟩, database.keeps, collection.keeps⟩

/-- A client answers the start of a session itself, and forwarding it posts it nevertheless. -/
theorem session_start_is_posted :
    "start_session" ∈ Client.localOperations
      ∧ ∃ s, Session.start (.ofScript []) "client" ⟨"http://h/", [], some .standard⟩ = .ok s
        ∧ (s.step ⟨"client", .forward (.bare "start_session"), none, none, none⟩).1.posted.map
          (·.envelope.operation) = ["start_session"] := by
  have posted : (Session.start (.ofScript []) "client"
      ⟨"http://h/", [], some .standard⟩).toOption.map (fun s =>
        (s.step ⟨"client", .forward (.bare "start_session"), none, none, none⟩).1.posted.map
          (·.envelope.operation)) = some ["start_session"] := by
    decide +kernel
  refine ⟨by decide, ?_⟩
  rcases started : Session.start (.ofScript []) "client" ⟨"http://h/", [], some .standard⟩
    with e | s
  · rw [started] at posted
    cases posted
  · rw [started] at posted
    exact ⟨s, rfl, Option.some.inj posted⟩

end RemoteDriver
