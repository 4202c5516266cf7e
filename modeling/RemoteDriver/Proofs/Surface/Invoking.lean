import RemoteDriver.Proofs.ChangeStream.Lifecycle
import RemoteDriver.Proofs.Closing.Services
import RemoteDriver.Proofs.Cursor.Lifecycle
import RemoteDriver.Proofs.Quiet
import RemoteDriver.Proofs.Surface.Mirrored

/-!
# What calls by name send

A call by name on a client, a database or a collection is posted exactly where the operation is
mirrored and the handle does not answer it itself, the arguments fit, and every value has a form on
the wire; it is then one request, which carries the values one by one and is told on which handle
it was made (`Forwards`).  Cursors and change streams ask for the next batch or event and take their
leave, and for nothing else (`AsksOnly`).  All that is not on offer is misuse and leaves everything
as it was (`RefusesMisuse`).

The main statement, `invoke_sends_mirrored`, says so of all five kinds of handles.
-/

namespace RemoteDriver

open Bson (Document Value)

/-! ## Values one by one -/

/-- What the values of a call encode to, in the order and by the names in which they are given. -/
structure Call.EncodesAs (codec : Codec) (call : Call) (args : List Json)
    (kwargs : List (String × Json)) : Prop where
  /-- The arguments by position. -/
  args : call.args.map codec.encode = args.map .ok
  /-- The arguments by name. -/
  kwargs : call.kwargs.map (fun (name, v) => (name, codec.encode v))
    = kwargs.map fun (name, j) => (name, .ok j)

/-- Every value of a call has a form on the wire. -/
def Call.Encodes (codec : Codec) (call : Call) : Prop :=
  ∃ args kwargs, call.EncodesAs codec args kwargs

namespace Envelope

variable {codec : Codec}

/-- Arguments have forms on the wire if each has one, in the same order. -/
theorem encodeArgs_eq_ok {vs : List Value} {js : List Json} :
    encodeArgs codec vs = .ok js ↔ vs.map codec.encode = js.map .ok := by
  induction vs generalizing js with
  | nil => cases js <;> simp [encodeArgs]
  | cons v vs ih =>
    unfold encodeArgs
    rcases encoded : codec.encode v with err | j
    · cases js <;> simp [encoded]
    · cases js with
      | nil => rcases encodeArgs codec vs with _ | _ <;> simp
      | cons k ks =>
        rcases rest : encodeArgs codec vs with err | js
        · have never : vs.map codec.encode ≠ ks.map .ok := by
            intro h
            cases rest.symm.trans (ih.mpr h)
          simp [encoded, never]
        · have same : js = ks ↔ vs.map codec.encode = ks.map .ok := by
            rw [← ih, rest, Except.ok.injEq]
          simp [encoded, same]

/-- Named arguments have forms on the wire if each has one, under the same name. -/
theorem encodeKwargs_eq_ok {vs : Document} {js : List (String × Json)} :
    encodeKwargs codec vs = .ok js
      ↔ vs.map (fun (name, v) => (name, codec.encode v))
        = js.map fun (name, j) => (name, .ok j) := by
  induction vs generalizing js with
  | nil => cases js <;> simp [encodeKwargs]
  | cons entry vs ih =>
    obtain ⟨name, v⟩ := entry
    unfold encodeKwargs
    rcases encoded : codec.encode v with err | j
    · cases js <;> simp [encoded]
    · cases js with
      | nil => rcases encodeKwargs codec vs with _ | _ <;> simp
      | cons k ks =>
        rcases rest : encodeKwargs codec vs with err | js
        · have never : vs.map (fun (name, v) => (name, codec.encode v))
              ≠ ks.map fun (name, j) => (name, .ok j) := by
            intro h
            cases rest.symm.trans (ih.mpr h)
          simp [encoded, never]
        · have same : js = ks ↔ vs.map (fun (name, v) => (name, codec.encode v))
              = ks.map fun (name, j) => (name, .ok j) := by
            rw [← ih, rest, Except.ok.injEq]
          simp [encoded, same, Prod.ext_iff]

/-- A call has an envelope if and only if every value has a form on the wire. -/
theorem ofCall_eq_ok {call : Call} {route : Route} {envelope : Envelope} :
    ofCall codec call route = .ok envelope
      ↔ ∃ args kwargs, call.EncodesAs codec args kwargs
        ∧ envelope = ⟨call.name, args, kwargs, route⟩ := by
  constructor
  · intro h
    obtain ⟨named, context, args, kwargs⟩ := ofCall_ok h
    obtain ⟨operation, args', kwargs', context'⟩ := envelope
    dsimp only at named context args kwargs
    subst named context
    exact ⟨args', kwargs', ⟨encodeArgs_eq_ok.mp args, encodeKwargs_eq_ok.mp kwargs⟩, rfl⟩
  · rintro ⟨args, kwargs, encodes, rfl⟩
    unfold ofCall
    rw [encodeArgs_eq_ok.mpr encodes.args, encodeKwargs_eq_ok.mpr encodes.kwargs]

end Envelope

/-! ## Posting -/

namespace Connection

variable (c : Connection) (sender : Sender) (route : Route) (limits : Limits) {call : Call}
  {w : World}

/-- On an open client a call whose values have a form on the wire is posted. -/
theorem posted_dispatch_of_encodes (isOpen : w.isClosed c.client = false) {args : List Json}
    {kwargs : List (String × Json)} (encodes : call.EncodesAs c.codec args kwargs) :
    (c.dispatch sender call route limits w).2.posted
      = w.posted ++ [c.request ⟨call.name, args, kwargs, route⟩] := by
  have made : Envelope.ofCall c.codec call route = .ok ⟨call.name, args, kwargs, route⟩ :=
    Envelope.ofCall_eq_ok.mpr ⟨args, kwargs, encodes, rfl⟩
  rcases c.dispatch_refused_or_sent sender call route limits w
    with ⟨err, ⟨closed, _⟩ | ⟨_, cannot⟩, _⟩ | ⟨e, w', carries, sends, hd⟩
  · rw [isOpen] at closed
    cases closed
  · cases made.symm.trans cannot
  · obtain ⟨envelope, made', request⟩ := carries.request
    cases made.symm.trans made'
    rw [hd, sends.posted, List.map_singleton, request]

/-- A call with a value that has no form on the wire is not posted. -/
theorem posted_dispatch_of_not_encodes (cannot : ¬ call.Encodes c.codec) :
    (c.dispatch sender call route limits w).2.posted = w.posted := by
  rcases c.dispatch_refused_or_sent sender call route limits w
    with ⟨err, _, hd⟩ | ⟨e, w', carries, _, _⟩
  · rw [hd]
  · obtain ⟨envelope, made, _⟩ := carries.request
    obtain ⟨args, kwargs, encodes, _⟩ := Envelope.ofCall_eq_ok.mp made
    exact absurd ⟨args, kwargs, encodes⟩ cannot

end Connection

/-! ## Calls that are forwarded -/

/-- Calls by name on a handle that knows the operations of a shape and answers some names itself,
whose client is that of a connection, and that is reached by a route. -/
structure Forwards (shape : Shape) (overrides : List String) (connection : Connection)
    (route : Route) (invoke : Call → Action Outcome) : Prop where
  /-- As long as the client is open, a call is posted exactly where it fits an operation that is
  mirrored and not overridden, and every value has a form on the wire. -/
  posts : ∀ call limits w, w.isClosed connection.client = false →
    ((invoke call limits w).2.posted ≠ w.posted
      ↔ shape.Fits call ∧ call.name ∉ overrides ∧ call.Encodes connection.codec)
  /-- It is one request then, with the values one by one. -/
  once : ∀ call limits w, w.isClosed connection.client = false →
    (invoke call limits w).2.posted ≠ w.posted →
      ∃ args kwargs, call.EncodesAs connection.codec args kwargs
        ∧ (invoke call limits w).2.posted
          = w.posted ++ [connection.request ⟨call.name, args, kwargs, route⟩]
  /-- What is overridden is never posted. -/
  overridden : ∀ call limits w, call.name ∈ overrides →
    (invoke call limits w).2.posted = w.posted

/-- Calls by name that are not on offer: they are misuse of the operation that is named, and leave
the world and the handle, `unchanged`, as they were. -/
def RefusesMisuse {α : Type} (shape : Shape) (overrides : List String)
    (invoke : Call → Limits → World → Except Halt Outcome × α) (unchanged : World → α) : Prop :=
  ∀ call limits w, shape.Misuses overrides call →
    ∃ message, invoke call limits w = (.error (.failed (.usage call.name message)), unchanged w)

namespace Gateway

variable {shape : Shape} {overrides : List String} {g : Gateway}

/-- Making a handle of a reply posts nothing. -/
theorem posted_forwardOutcome (g : Gateway) (name : String) (args : List Value)
    (kwargs : Document) (limits : Limits) (w : World) :
    (g.forwardOutcome name args kwargs limits w).2.posted
      = (g.forward name args kwargs limits w).2.posted := by
  unfold forwardOutcome
  rw [Action.bind_eq_resumed]
  rcases (g.forward name args kwargs limits w).1 with h | reply
  · rfl
  · exact ((Outcome.ofReply_quiet g reply).still limits _).posted

/-- A call that fits a mirrored operation of another name than the handle answers itself. -/
theorem resolve_of_fits (serves : shape.Serves overrides g) {call : Call}
    (fits : shape.Fits call) (other : call.name ∉ overrides) :
    g.resolve call.name call.args call.kwargs = .ok .remote := by
  rcases resolve_of_not_mem serves other with ⟨remote, _⟩ | ⟨unknown, _⟩
  · exact remote
  · obtain ⟨signature, mirrors, _⟩ := fits
    exact absurd mirrors (unknown signature)

section invoke

variable (serves : shape.Serves overrides g) {answer : Call → Action Outcome}
  (quiet : ∀ call, Action.Quiet Error.IsMisuse (answer call)) (call : Call) (limits : Limits)
  (w : World)

include serves in
/-- A call that fits is posted as it is. -/
theorem posted_invoke_of_fits (fits : shape.Fits call) (other : call.name ∉ overrides) :
    (g.invoke call.name call.args call.kwargs (answer call) limits w).2.posted
      = (g.connection.dispatch g.sender call g.route limits w).2.posted := by
  unfold invoke
  rw [resolve_of_fits serves fits other]
  dsimp only
  rw [posted_forwardOutcome, forward_of_fits serves fits]

include serves quiet in
/-- Every other call posts nothing. -/
theorem posted_invoke_of_not (not : ¬ (shape.Fits call ∧ call.name ∉ overrides)) :
    (g.invoke call.name call.args call.kwargs (answer call) limits w).2.posted = w.posted := by
  unfold invoke
  rcases resolved : g.resolve call.name call.args call.kwargs with err | _ | _
  · rfl
  · by_cases own : call.name ∈ overrides
    · rcases resolve_of_mem serves own with ⟨handle, _⟩ | ⟨_, refused, _⟩
      · cases resolved.symm.trans handle
      · cases resolved.symm.trans refused
    · have misfits : ¬ shape.Fits call := fun fits => not ⟨fits, own⟩
      obtain ⟨message, fails⟩ := forward_of_not_fits serves misfits
      dsimp only
      rw [posted_forwardOutcome, fails]
      rfl
  · exact ((quiet call).still limits w).posted

include serves quiet in
/-- Calls by name through a gateway post what is mirrored, if what the handle itself makes of them
is quiet. -/
theorem forwards : Forwards shape overrides g.connection g.route
    fun call => g.invoke call.name call.args call.kwargs (answer call) where
  posts call limits w isOpen := by
    by_cases sent : shape.Fits call ∧ call.name ∉ overrides
    · obtain ⟨fits, other⟩ := sent
      rw [posted_invoke_of_fits serves call limits w fits other]
      constructor
      · intro grown
        refine ⟨fits, other, Classical.byContradiction fun cannot => grown ?_⟩
        exact g.connection.posted_dispatch_of_not_encodes g.sender g.route limits cannot
      · rintro ⟨_, _, args, kwargs, encodes⟩
        rw [g.connection.posted_dispatch_of_encodes g.sender g.route limits isOpen encodes]
        simp
    · rw [posted_invoke_of_not serves quiet call limits w sent]
      exact ⟨fun grown => absurd rfl grown, fun ⟨fits, other, _⟩ => absurd ⟨fits, other⟩ sent⟩
  once call limits w isOpen grown := by
    by_cases sent : shape.Fits call ∧ call.name ∉ overrides
    · obtain ⟨fits, other⟩ := sent
      rw [posted_invoke_of_fits serves call limits w fits other] at grown ⊢
      by_cases can : call.Encodes g.connection.codec
      · obtain ⟨args, kwargs, encodes⟩ := can
        exact ⟨args, kwargs, encodes,
          g.connection.posted_dispatch_of_encodes g.sender g.route limits isOpen encodes⟩
      · exact absurd
          (g.connection.posted_dispatch_of_not_encodes g.sender g.route limits can) grown
    · exact absurd (posted_invoke_of_not serves quiet call limits w sent) grown
  overridden call limits w own :=
    posted_invoke_of_not serves quiet call limits w fun sent => sent.2 own

include serves in
/-- Calls by name through a gateway refuse what is not on offer. -/
theorem refusesMisuse : RefusesMisuse shape overrides
    (fun call => g.invoke call.name call.args call.kwargs (answer call)) id := by
  intro call limits w misuses
  dsimp only
  unfold invoke
  rcases resolve_of_misuses serves misuses with ⟨message, refused⟩ | ⟨remote, misfits⟩
  · rw [refused]
    exact ⟨message, rfl⟩
  · obtain ⟨message, fails⟩ := forward_of_not_fits serves misfits
    rw [remote]
    dsimp only
    unfold forwardOutcome
    rw [fails]
    exact ⟨message, rfl⟩

end invoke

end Gateway

/-! ## Calls that a handle answers itself -/

/-- Calls by name on a handle that changes ask for what goes with the name that is called, as a list
of names and operations tells, and for nothing else. -/
def AsksOnly {α σ : Type} (asked : List (String × String))
    (invoke : Call → Limits → World → α × σ × World) : Prop :=
  ∀ call limits w, ∃ requests, (invoke call limits w).2.2.posted = w.posted ++ requests
    ∧ ∀ r ∈ requests, (call.name, r.envelope.operation) ∈ asked

/-- A handle that answers all operations itself refuses what is not on offer. -/
theorem Gateway.refused_of_misuses {shape : Shape} {overrides : List String} {g : Gateway}
    {call : Call} (serves : shape.Serves overrides g)
    (never : g.resolve call.name call.args call.kwargs ≠ .ok .remote)
    (misuses : shape.Misuses overrides call) : ∃ message,
      g.resolve call.name call.args call.kwargs = .error (.usage call.name message) := by
  rcases resolve_of_misuses serves misuses with refused | ⟨remote, _⟩
  · exact refused
  · exact absurd remote never

namespace Cursor

/-- What a cursor asks the remote side for when it is called by a name. -/
def asked : List (String × String) :=
  [("next", "get_more"), ("try_next", "get_more"), ("close", "close")]

/-- A cursor asks for nothing but what its calls stand for. -/
theorem Served.mem_asked {c c' : Cursor} {name : String} {args : List Value} {kwargs : Document}
    {es : List Exchange} {r : Except Halt Result}
    (served : Served c (.invoke name args kwargs) es r c') :
    ∀ e ∈ es, (name, e.request.envelope.operation) ∈ asked := by
  intro e member
  cases served with
  | still | sized => cases member
  | pulled fetches _ pull =>
    rw [pull.asks e member]
    rcases fetches.1 with rfl | rfl
    · decide
    · decide
  | parted closes _ parting =>
    obtain ⟨_, _, token, _, request⟩ := parting.asks member
    rw [closes.1, request]
    exact (show ("close", "close") ∈ asked by decide)

/-- A cursor asks for batches and takes its leave, and for nothing else. -/
theorem asksOnly (c : Cursor) :
    AsksOnly asked fun call => c.invoke call.name call.args call.kwargs := by
  intro call limits w
  obtain ⟨es, sends, served⟩ :=
    c.serve_served (.invoke call.name call.args call.kwargs) limits w
  have posted : (c.invoke call.name call.args call.kwargs limits w).2.2.posted
      = w.posted ++ es.map (·.request) := sends.posted
  refine ⟨es.map (·.request), posted, fun r member => ?_⟩
  obtain ⟨e, told, rfl⟩ := List.mem_map.mp member
  exact served.mem_asked e told

/-- A cursor refuses what is not on offer, and stays as it was. -/
theorem refusesMisuse (c : Cursor) : RefusesMisuse .cursor localOperations
    (fun call => c.invoke call.name call.args call.kwargs) fun w => (c, w) := by
  intro call limits w misuses
  obtain ⟨message, refused⟩ := Gateway.refused_of_misuses c.serves
    (c.resolve_ne_remote call.name call.args call.kwargs) misuses
  refine ⟨message, ?_⟩
  dsimp only
  unfold invoke
  rw [refused]

end Cursor

namespace ChangeStream

/-- What a change stream asks the remote side for when it is called by a name. -/
def asked : List (String × String) :=
  [("next", "try_next"), ("try_next", "try_next"), ("close", "close")]

/-- A call by name is made by this name. -/
theorem Demand.Names.eq {s : ChangeStream} {name operation : String} {args : List Value}
    {kwargs : Document} (names : (Demand.invoke name args kwargs).Names s operation) :
    name = operation := names.1

/-- A change stream asks for nothing but what its calls stand for. -/
theorem Served.mem_asked {s s' : ChangeStream} {name : String} {args : List Value}
    {kwargs : Document} {limits : Limits} {w w' : World} {es : List Exchange}
    {r : Except Halt Result} (served : Served s ⟨.invoke name args kwargs, limits, w⟩ es r s' w') :
    ∀ e ∈ es, (name, e.request.envelope.operation) ∈ asked := by
  intro e member
  cases served with
  | still | timed => cases member
  | tried tries _ _ attempt =>
    rcases tries with same | names
    · cases same
    · rw [names.eq, (attempt.asked member).operation]
      decide
  | waited _ waits _ row =>
    rcases waits with same | names
    · cases same
    · rw [names.eq, (row.asks e member).1]
      decide
  | parted _ _ closes parting =>
    rcases closes with same | names
    · cases same
    · obtain ⟨_, id, _, request⟩ := parting.asks member
      rw [names.eq, request]
      exact (show ("close", "close") ∈ asked by decide)

/-- A change stream asks for events and takes its leave, and for nothing else. -/
theorem asksOnly (s : ChangeStream) :
    AsksOnly asked fun call => s.invoke call.name call.args call.kwargs := by
  intro call limits w
  have served := s.serve_served (.invoke call.name call.args call.kwargs) limits w
  have gated : GatedUse s.connection.client failure? (fun s' => s'.connection = s.connection)
      (s.invoke call.name call.args call.kwargs) := invoke_gated rfl call.name call.args call.kwargs
  obtain ⟨requests, grown⟩ := (gated.moves limits w).grows
  refine ⟨requests, grown.symm, fun r member => ?_⟩
  have told : (World.exchanges (some s.serial)
      ((Demand.invoke call.name call.args call.kwargs).patience s limits) w
      (s.invoke call.name call.args call.kwargs limits w).2.2).map (·.request) = requests := by
    rw [World.map_request_exchanges]
    exact (congrArg (List.drop w.posted.length) grown.symm).trans List.drop_left
  rw [← told] at member
  obtain ⟨e, told, rfl⟩ := List.mem_map.mp member
  exact served.mem_asked e told

/-- A change stream refuses what is not on offer, and stays as it was. -/
theorem refusesMisuse (s : ChangeStream) : RefusesMisuse .changeStream localOperations
    (fun call => s.invoke call.name call.args call.kwargs) fun w => (s, w) := by
  intro call limits w misuses
  obtain ⟨message, refused⟩ := Gateway.refused_of_misuses s.serves
    (s.resolve_ne_remote call.name call.args call.kwargs) misuses
  refine ⟨message, ?_⟩
  dsimp only
  unfold invoke
  rw [refused]

end ChangeStream

/-! ## All handles -/

/-- Calls by name send what is mirrored, and nothing else, on all five kinds of handles. -/
theorem invoke_sends_mirrored :
    (∀ c : Client,
        Forwards .client Client.localOperations c.connection .client
            (fun call => c.invoke call.name call.args call.kwargs)
          ∧ RefusesMisuse .client Client.localOperations
            (fun call => c.invoke call.name call.args call.kwargs) id)
      ∧ (∀ d : Database,
        Forwards .database Database.localOperations d.owner.connection (.ofDatabase d.name)
            (fun call => d.invoke call.name call.args call.kwargs)
          ∧ RefusesMisuse .database Database.localOperations
            (fun call => d.invoke call.name call.args call.kwargs) id)
      ∧ (∀ c : Collection,
        Forwards .collection Collection.localOperations c.database.owner.connection
            (.ofCollection c.database.name c.name)
            (fun call => c.invoke call.name call.args call.kwargs)
          ∧ RefusesMisuse .collection Collection.localOperations
            (fun call => c.invoke call.name call.args call.kwargs) id)
      ∧ (∀ c : Cursor,
        AsksOnly Cursor.asked (fun call => c.invoke call.name call.args call.kwargs)
          ∧ RefusesMisuse .cursor Cursor.localOperations
            (fun call => c.invoke call.name call.args call.kwargs) fun w => (c, w))
      ∧ (∀ s : ChangeStream,
        AsksOnly ChangeStream.asked (fun call => s.invoke call.name call.args call.kwargs)
          ∧ RefusesMisuse .changeStream ChangeStream.localOperations
            (fun call => s.invoke call.name call.args call.kwargs) fun w => (s, w)) := by
  refine ⟨fun c => ⟨?_, ?_⟩, fun d => ⟨?_, ?_⟩, fun c => ⟨?_, ?_⟩, fun c => ?_, fun s => ?_⟩
  · exact Gateway.forwards c.serves fun call => c.answer_quiet call.name call.args call.kwargs
  · exact Gateway.refusesMisuse c.serves
  · exact Gateway.forwards d.serves fun call => d.answer_quiet call.name call.args call.kwargs
  · exact Gateway.refusesMisuse d.serves
  · exact Gateway.forwards c.serves fun call => c.answer_quiet call.name
  · exact Gateway.refusesMisuse c.serves
  · exact ⟨c.asksOnly, c.refusesMisuse⟩
  · exact ⟨s.asksOnly, s.refusesMisuse⟩

end RemoteDriver
