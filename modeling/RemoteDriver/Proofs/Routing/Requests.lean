import Mathlib.Logic.Function.Basic
import RemoteDriver.Proofs.Identity.Services

/-!
# Where requests go

A request goes to the URL that its client was made with, and its context tells on which object it
was made: a client, a database or a collection by its own names, a cursor or a change stream by the
names of the object that opened it and by the token that it holds (`Handle.Routes`).

Cursors and change streams outlive the objects that opened them, and names of handles are given
anew, so a run is measured against an `Atlas`: which client has which URL, and which cursor or
change stream belongs to which place.  A session draws its atlas while it runs.  An entry is made
when a client is made or when a cursor or a change stream is opened, and it never changes; what is
asked later is asked as the atlas tells (`Session.requests_routed`).
-/

namespace RemoteDriver

open World (Still Gave)

/-! ## Requests on handles -/

/-- The names in the context of a request: those of a collection and its database, that of a
database, or none. -/
structure Place where
  /-- The name of the database. -/
  database : Option String
  /-- The name of the collection. -/
  collection : Option String

namespace Handle

/-- The kind of object that requests on a handle are about; there are none on a close signal. -/
def target? : Handle → Option Target
  | client _ => some .client
  | database _ => some .database
  | collection _ => some .collection
  | cursor _ => some .commandCursor
  | changeStream _ => some .changeStream
  | closeSignal _ => none

/-- The names that requests on a handle carry. -/
def place : Handle → Place
  | client _ => ⟨none, none⟩
  | database d => ⟨some d.name, none⟩
  | collection c => ⟨some c.database.name, some c.name⟩
  | cursor c => ⟨c.origin.database, c.origin.collection⟩
  | changeStream s => ⟨s.origin.database, s.origin.collection⟩
  | closeSignal _ => ⟨none, none⟩

/-- The token that a handle holds once it has had these exchanges. -/
def held (h : Handle) (es : List Exchange) : Option String :=
  match h with
  | cursor c => Cursor.lastToken c.connection.codec c.cursorId es
  | changeStream s => ChangeStream.latestId s.connection.codec s.streamId es
  | _ => none

/-- A request on a handle that has had these exchanges before: it goes to this URL, and its context
has the kind of the handle, these names, and the token that is held. -/
structure Routes (h : Handle) (url : Url) (place : Place) (prior : List Exchange) (r : Request) :
    Prop where
  /-- Where it goes. -/
  url : r.url = url
  /-- On what it is made. -/
  context : ∃ target, h.target? = some target
    ∧ r.envelope.context = ⟨target, place.database, place.collection, h.held prior⟩
  /-- A handle with a state of its own holds a token. -/
  present : h.number?.isSome → (h.held prior).isSome

/-- A request is made on a handle as it stands. -/
def Asks (h : Handle) (prior : List Exchange) (r : Request) : Prop :=
  ∃ g, h.gateway? = some g ∧ h.Routes g.connection.endpoint.url h.place prior r

/-- A call is passed through a cursor or a change stream as it is. -/
def PassesThrough (h : Handle) : Command → Prop
  | .forward _ | .forwardOutcome _ _ => h.number?.isSome
  | _ => False

/-- Exchanges on a handle lead from a world to another and leave a token, or none. -/
structure Converses (h : Handle) (deadline : Nat → Nat) (w : World) (became : Option Handle)
    (w' : World) (es : List Exchange) : Prop where
  /-- They are what went over the wire. -/
  had : World.Had h.number? deadline w es w'
  /-- Each request is made on the handle as it stands then. -/
  asked : InTurn (fun prior e => h.Asks prior e.request) es
  /-- The token that is left is the last one, unless it was given up. -/
  left : ∀ h', became = some h' → h'.held [] = h.held es ∨ h'.held [] = none

variable {h : Handle} {g : Gateway} {command : Command} {service : Service} {limits : Limits}
  {w w' : World}

/-- The requests of an operation are sent in the name of the handle that has the gateway. -/
theorem sender_of_gateway? (operates : h.gateway? = some g) : g.sender = h.number? := by
  cases h <;> cases operates <;> rfl

/-- The names that a gateway writes into a request are those of its handle. -/
theorem place_of_gateway? (operates : h.gateway? = some g) :
    h.place = ⟨g.route.database, g.route.collection⟩ := by
  cases h with
  | client | database | collection =>
    cases operates
    rfl
  | cursor c =>
    cases operates
    show _ = Place.mk (c.origin.toHandle _ c.cursorId).database (c.origin.toHandle _ _).collection
    cases c.cursorId <;> rfl
  | changeStream s =>
    cases operates
    show _ = Place.mk (s.origin.toHandle _ s.streamId).database (s.origin.toHandle _ _).collection
    cases s.streamId <;> rfl
  | closeSignal => cases operates

/-- A handle that stays what it is and has no state of its own holds no token. -/
theorem held_of_number? (stateless : h.number? = none) (es : List Exchange) : h.held es = none := by
  cases h <;> first | rfl | cases stateless

/-- A handle that has had no exchanges holds the token that it held. -/
theorem left_self (h : Handle) :
    ∀ h', some h = some h' → h'.held [] = h.held [] ∨ h'.held [] = none := by
  rintro _ ⟨rfl⟩
  exact .inl rfl

/-- Nothing is said on a handle. -/
theorem converses_nothing (deadline : Nat → Nat) (still : Still w w') :
    h.Converses deadline w (some h) w' [] :=
  ⟨still.had, inTurn_nil _, h.left_self⟩

/-! ## Clients, databases and collections -/

/-- A request on a handle without a state of its own is made as its gateway tells. -/
theorem asks_of_carries (operates : h.gateway? = some g) (stateless : h.number? = none)
    {call : Call} {e : Exchange} (carries : g.connection.Carries call g.route w e)
    (prior : List Exchange) : h.Asks prior e.request := by
  obtain ⟨envelope, made, request⟩ := carries.request
  have context : e.request.envelope.context = g.route := by
    rw [request]
    exact (Envelope.ofCall_ok made).2.1
  refine ⟨g, operates, by rw [request]; rfl, ?_, ?_⟩
  · rw [held_of_number? stateless, context]
    cases h <;> cases operates <;> first | exact ⟨_, rfl, rfl⟩ | cases stateless
  · rw [stateless]
    rintro ⟨⟩

/-- What comes down to a call, or to none, is asked as the gateway tells. -/
theorem converses_of_undertakes {t : Action Result} {call? : Option Call}
    (undertakes : Undertakes g t call?) (operates : h.gateway? = some g)
    (stateless : h.number? = none) (limits : Limits) (w : World) :
    ∃ es, h.Converses (fun _ => limits.deadline) w (h.steady t limits w).2.1
      (h.steady t limits w).2.2 es := by
  have silent (es : List Exchange) :
      ∀ h', some h = some h' → h'.held [] = h.held es ∨ h'.held [] = none := by
    rintro _ ⟨rfl⟩
    exact .inr (held_of_number? stateless [])
  have sender := sender_of_gateway? operates
  unfold steady
  dsimp only
  cases undertakes with
  | answers quiet => exact ⟨[], converses_nothing _ (quiet.still limits w)⟩
  | forwards call f same reads =>
    rw [same, Action.bind_eq_resumed]
    rcases g.forward_refused_or_sent call limits w
      with ⟨message, hf⟩ | ⟨e, w', carries, sends, hf⟩
    · rw [hf]
      exact ⟨[], converses_nothing _ (.refl w)⟩
    · rw [hf]
      rw [sender] at sends
      have asks := inTurn_singleton (P := fun prior e => h.Asks prior e.request)
        (asks_of_carries operates stateless carries [])
      rcases e.result g.connection.codec .abandoned with halt | reply
      · exact ⟨[e], sends.had, asks, silent [e]⟩
      · exact ⟨[e], sends.had.still ((reads reply).still limits w'), asks, silent [e]⟩

/-! ## Cursors and change streams -/

/-- A cursor that has followed its token has made its requests as it stands. -/
theorem converses_of_pursues {c c' : Cursor} {deadline : Nat} {became : Option Handle}
    (pursues : c.Pursues deadline w c' w') (stays : ∀ h, became = some h → h = .cursor c') :
    ∃ es, (cursor c).Converses (fun _ => deadline) w became w' es := by
  obtain ⟨es, sends, follows⟩ := pursues
  refine ⟨es, sends.had, follows.tokens.asked.mono ?_, fun h same => ?_⟩
  · rintro prior e ⟨token, holds, url, context, _⟩
    have holds : (cursor c).held prior = some token := holds
    refine ⟨c.gateway, rfl, url, ⟨_, rfl, ?_⟩, ?_⟩
    · rw [holds]
      exact context
    · rw [holds]
      exact fun _ => rfl
  · rw [stays h same]
    exact follows.tokens.left

/-- A change stream that has followed its token has made its requests as it stands. -/
theorem converses_of_attends {s s' : ChangeStream} {deadline : Nat → Nat}
    {became : Option Handle} (attends : s.Attends deadline w s' w')
    (stays : ∀ h, became = some h → h = .changeStream s') :
    ∃ es, (changeStream s).Converses deadline w became w' es := by
  obtain ⟨v, es, begun, sends, follows⟩ := attends
  have still : Still w v := by
    rcases begun with rfl | rfl
    · exact .refl v
    · exact w.still_fire s.serial
  refine ⟨es, still.had_of_had sends.had, follows.tokens.asked.mono ?_, fun h same => ?_⟩
  · rintro prior e ⟨id, holds, url, context, _⟩
    have holds : (changeStream s).held prior = some id := holds
    refine ⟨s.gateway, rfl, url, ⟨_, rfl, ?_⟩, ?_⟩
    · rw [holds]
      exact context
    · rw [holds]
      exact fun _ => rfl
  · rw [stays h same]
    exact follows.tokens.left

/-! ## All handles -/

/-- A handle without a state of its own waits as long as its caller does. -/
theorem patience_of_number? (stateless : h.number? = none) (command : Command) (limits : Limits) :
    h.patience command limits = fun _ => limits.deadline := by
  cases h <;> first | rfl | cases stateless

/-- What all handles with operations know, unless a call is passed through. -/
theorem common_converses {t : Action Result} (operates : h.gateway? = some g)
    (common : common? g command = some t) (own : ¬ h.PassesThrough command) (limits : Limits)
    (w : World) : ∃ es, h.Converses (h.patience command limits) w (h.steady t limits w).2.1
      (h.steady t limits w).2.2 es := by
  by_cases stateless : h.number? = none
  · rw [patience_of_number? stateless]
    exact converses_of_undertakes (g.common_undertakes common) operates stateless limits w
  · have stateful : h.number?.isSome := Option.isSome_iff_ne_none.mpr stateless
    cases command <;> cases common <;>
      first | exact absurd stateful own | exact ⟨[], converses_nothing _ (.refl w)⟩

/-- What is special to a kind of handle makes its requests on the handle as it stands. -/
theorem own_converses (known : h.own? command = some service) (limits : Limits) (w : World) :
    ∃ es, h.Converses (h.patience command limits) w (service limits w).2.1 (service limits w).2.2
      es := by
  cases h with
  | client c =>
    obtain ⟨t, ht, rfl⟩ := Option.map_eq_some_iff.mp known
    exact converses_of_undertakes (c.own_undertakes ht) rfl rfl limits w
  | database d =>
    obtain ⟨t, ht, rfl⟩ := Option.map_eq_some_iff.mp known
    exact converses_of_undertakes (d.own_undertakes ht) rfl rfl limits w
  | collection c =>
    obtain ⟨t, ht, rfl⟩ := Option.map_eq_some_iff.mp known
    exact converses_of_undertakes (c.own_undertakes ht) rfl rfl limits w
  | cursor c =>
    obtain ⟨c', pursues, became, _⟩ := c.own_pursues limits w known
    exact converses_of_pursues pursues became
  | changeStream s =>
    obtain ⟨s', attends, became, _⟩ := s.own_attends limits w known
    exact converses_of_attends attends became
  | closeSignal subscription =>
    obtain ⟨t, ht, rfl⟩ := Option.map_eq_some_iff.mp known
    cases command <;> cases ht
    · exact ⟨[], converses_nothing _ (w.still_fire subscription)⟩
    · exact ⟨[], converses_nothing _ (.refl w)⟩

/-- Whatever is asked of whatever handle, each request is made on the handle as it stands then. -/
theorem service_converses (known : h.service? command = some service)
    (own : ¬ h.PassesThrough command) (limits : Limits) (w : World) :
    ∃ es, h.Converses (h.patience command limits) w (service limits w).2.1 (service limits w).2.2
      es := by
  unfold service? at known
  split at known
  · next t common =>
    cases known
    obtain ⟨g, operates, common⟩ := Option.bind_eq_some_iff.mp common
    exact common_converses operates common own limits w
  · exact own_converses known limits w

end Handle

/-! ## Handles of one client -/

namespace Handle

/-- The number of a handle that a reply opened. -/
def opened? : Handle → Option Nat
  | cursor c => some c.serial
  | changeStream s => some s.serial
  | _ => none

/-- What a reply opened keeps a state of its own under that number. -/
theorem number?_of_opened? {h : Handle} {n : Nat} (opened : h.opened? = some n) :
    h.number? = some n := by
  cases h <;> cases opened <;> rfl

/-- Calls on a handle take the connection of another one. -/
def Shares (h h' : Handle) : Prop :=
  ∀ g', h'.gateway? = some g' → ∃ g, h.gateway? = some g ∧ g'.connection = g.connection

variable {h h' : Handle}

/-- Handles with one connection lead to one client. -/
theorem Shares.client? (shares : h.Shares h') {n : Nat} (leads : h'.client? = some n) :
    h.client? = some n := by
  have operates : ∃ g', h'.gateway? = some g' ∧ g'.connection.client = n := by
    cases h' <;> cases leads <;> exact ⟨_, rfl, rfl⟩
  obtain ⟨g', operates, rfl⟩ := operates
  obtain ⟨g, operates, same⟩ := shares g' operates
  rw [same]
  exact client_of_gateway? operates

/-- What a handle has become goes the way that it went. -/
theorem Becomes.same (becomes : h.Becomes h') :
    h.Shares h' ∧ h'.place = h.place ∧ h'.opened? = h.opened? ∧ h'.number? = h.number? := by
  cases h with
  | client | database | collection | closeSignal =>
    cases becomes
    exact ⟨fun g operates => ⟨g, operates, rfl⟩, rfl, rfl, rfl⟩
  | cursor c =>
    cases h' with
    | cursor c' =>
      obtain ⟨connection, origin, serial⟩ := becomes
      refine ⟨?_, congrArg (fun r : Route => Place.mk r.database r.collection) origin,
        congrArg some serial, congrArg some serial⟩
      rintro _ ⟨rfl⟩
      exact ⟨_, rfl, connection⟩
    | client | database | collection | changeStream | closeSignal => cases becomes
  | changeStream s =>
    cases h' with
    | changeStream s' =>
      obtain ⟨connection, origin, serial⟩ := becomes
      refine ⟨?_, congrArg (fun r : Route => Place.mk r.database r.collection) origin,
        congrArg some serial, congrArg some serial⟩
      rintro _ ⟨rfl⟩
      exact ⟨_, rfl, connection⟩
    | client | database | collection | cursor | closeSignal => cases becomes

/-- The numbers of a handle and of its client have been given away. -/
structure Numbered (n : Nat) (h : Handle) : Prop where
  /-- That of the client. -/
  client : ∀ m, h.client? = some m → m < n
  /-- Its own. -/
  own : ∀ m, h.number? = some m → m < n

/-- Numbers that have been given away stay so. -/
theorem Numbered.mono {n m : Nat} (numbered : h.Numbered n) (le : n ≤ m) : h.Numbered m :=
  ⟨fun k leads => Nat.lt_of_lt_of_le (numbered.client k leads) le,
    fun k number => Nat.lt_of_lt_of_le (numbered.own k number) le⟩

/-- What a handle has become has no other numbers than the handle. -/
theorem Numbered.becomes {n : Nat} (numbered : h.Numbered n) (becomes : h.Becomes h') :
    h'.Numbered n := by
  obtain ⟨shares, _, _, number⟩ := becomes.same
  exact ⟨fun m leads => numbered.client m (shares.client? leads), number ▸ numbered.own⟩

end Handle

/-- A client goes to the URL that it is made with. -/
theorem Setup.url_of_client {setup : Setup} {serial : Nat} {c : Client}
    (made : setup.client serial = .ok c) :
    Endpoint.urlOfText setup.uri = .ok c.connection.endpoint.url := by
  obtain ⟨url, options, parses, rfl⟩ := exists_of_client made
  exact parses

/-! ## The atlas -/

/-- Which client has which URL, and which cursor or change stream belongs to which place. -/
structure Atlas where
  /-- The URL of the client with a number. -/
  url : Nat → Url
  /-- The place of the cursor or the change stream with a number. -/
  place : Nat → Place

namespace Atlas

/-- The names that requests on a handle carry: its own ones, or the ones that a cursor or a change
stream has in the atlas. -/
def placeOf (a : Atlas) (h : Handle) : Place :=
  match h.opened? with
  | some n => a.place n
  | none => h.place

/-- A request on a handle is made as the atlas tells. -/
def Directs (a : Atlas) (h : Handle) (prior : List Exchange) (r : Request) : Prop :=
  ∃ n, h.client? = some n ∧ h.Routes (a.url n) (a.placeOf h) prior r

/-- A handle is where the atlas says. -/
structure Knows (a : Atlas) (h : Handle) : Prop where
  /-- Its client has this URL. -/
  url : ∀ g, h.gateway? = some g → g.connection.endpoint.url = a.url g.connection.client
  /-- It has this place. -/
  place : h.place = a.placeOf h

/-- Two atlases agree on the numbers before this one. -/
structure Agrees (n : Nat) (a b : Atlas) : Prop where
  /-- They have the same URLs. -/
  url : ∀ m, m < n → b.url m = a.url m
  /-- They have the same places. -/
  place : ∀ m, m < n → b.place m = a.place m

variable {a b c : Atlas} {n m : Nat} {h h' : Handle}

/-- An atlas agrees with itself on all numbers. -/
theorem Agrees.refl (n : Nat) (a : Atlas) : Agrees n a a := ⟨fun _ _ => rfl, fun _ _ => rfl⟩

/-- Atlases that are drawn one after the other agree on the numbers before the first. -/
theorem Agrees.trans (first : Agrees n a b) (second : Agrees m b c) (le : n ≤ m) :
    Agrees n a c := by
  constructor
  · intro k lt
    rw [second.url k (Nat.lt_of_lt_of_le lt le), first.url k lt]
  · intro k lt
    rw [second.place k (Nat.lt_of_lt_of_le lt le), first.place k lt]

/-- What a reply opened is where its entry says. -/
theorem placeOf_of_opened? (opened : h.opened? = some n) : a.placeOf h = a.place n := by
  unfold placeOf
  rw [opened]

/-- A handle that no reply opened carries its own names. -/
theorem placeOf_of_not_opened (plain : h.opened? = none) : a.placeOf h = h.place := by
  unfold placeOf
  rw [plain]

/-- A handle whose numbers have been given away is at one place in atlases that agree. -/
theorem Agrees.placeOf (agrees : Agrees n a b) (numbered : h.Numbered n) :
    b.placeOf h = a.placeOf h := by
  rcases opened : h.opened? with _ | m
  · rw [placeOf_of_not_opened opened, placeOf_of_not_opened opened]
  · rw [placeOf_of_opened? opened, placeOf_of_opened? opened]
    exact agrees.place m (numbered.own m (Handle.number?_of_opened? opened))

/-- A handle stays where the atlas says while the atlas grows. -/
theorem Knows.agrees (knows : a.Knows h) (numbered : h.Numbered n) (agrees : Agrees n a b) :
    b.Knows h := by
  constructor
  · intro g operates
    have lt := numbered.client _ (Handle.client_of_gateway? operates)
    rw [knows.url g operates, agrees.url _ lt]
  · rw [knows.place, agrees.placeOf numbered]

/-- What is asked of a handle as it stands is asked as the atlas tells. -/
theorem Knows.directs (knows : a.Knows h) {prior : List Exchange} {r : Request}
    (asks : h.Asks prior r) : a.Directs h prior r := by
  obtain ⟨g, operates, routes⟩ := asks
  rw [knows.url g operates, knows.place] at routes
  exact ⟨g.connection.client, Handle.client_of_gateway? operates, routes⟩

/-- A handle with the connection of a known one is known if it has its place. -/
theorem Knows.shares (knows : a.Knows h) (shares : h.Shares h') (place : h'.place = a.placeOf h') :
    a.Knows h' := by
  refine ⟨fun g' operates => ?_, place⟩
  obtain ⟨g, operates, same⟩ := shares g' operates
  rw [same]
  exact knows.url g operates

/-- What a handle has become is where it was. -/
theorem Knows.becomes (knows : a.Knows h) (becomes : h.Becomes h') : a.Knows h' := by
  obtain ⟨shares, place, opened, _⟩ := becomes.same
  refine knows.shares shares ?_
  have here := knows.place
  unfold placeOf at here ⊢
  rw [place, opened]
  exact here

/-! ## Charting what is brought -/

/-- The atlas with the URL of one more client. -/
def withUrl (a : Atlas) (n : Nat) (url : Url) : Atlas :=
  { a with url := Function.update a.url n url }

/-- The atlas with the place of one more cursor or change stream. -/
def withPlace (a : Atlas) (n : Nat) (place : Place) : Atlas :=
  { a with place := Function.update a.place n place }

/-- One more client changes nothing about those before it. -/
theorem agrees_withUrl (a : Atlas) (le : n ≤ m) (url : Url) : Agrees n a (a.withUrl m url) := by
  refine ⟨fun k lt => Function.update_of_ne ?_ _ _, fun _ _ => rfl⟩
  exact Nat.ne_of_lt (Nat.lt_of_lt_of_le lt le)

/-- One more cursor or change stream changes nothing about those before it. -/
theorem agrees_withPlace (a : Atlas) (le : n ≤ m) (place : Place) :
    Agrees n a (a.withPlace m place) := by
  refine ⟨fun _ _ => rfl, fun k lt => Function.update_of_ne ?_ _ _⟩
  exact Nat.ne_of_lt (Nat.lt_of_lt_of_le lt le)

/-- The atlas has the entry of what a command to a handle brings. -/
structure Charts (a : Atlas) (h : Handle) (command : Command) (h' : Handle) : Prop where
  /-- A client that is made has the URL that it is made with. -/
  made : ∀ setup c, command = .newClient setup → h' = .client c →
    Endpoint.urlOfText setup.uri = .ok (a.url c.connection.client)
  /-- Whatever else is brought leads to the client of the handle. -/
  kept : ¬ command.BringsClient → ∀ n, h'.client? = some n → h.client? = some n
  /-- A cursor or a change stream has the place of the handle that it is opened on. -/
  opened : ∀ n, h'.opened? = some n → a.place n = a.placeOf h

/-- The entry of what was brought stays while the atlas grows. -/
theorem Charts.agrees {command : Command} (charts : a.Charts h command h') (agrees : Agrees n a b)
    (numbered : h.Numbered n) (numbered' : h'.Numbered n) : b.Charts h command h' where
  made setup c asked brought := by
    subst brought
    rw [agrees.url _ (numbered'.client _ rfl)]
    exact charts.made setup c asked rfl
  kept := charts.kept
  opened m opened := by
    have lt := numbered'.own m (Handle.number?_of_opened? opened)
    rw [agrees.placeOf numbered, agrees.place m lt]
    exact charts.opened m opened

section charts

variable {command : Command} {w w' : World}

/-- What shares the connection of a handle and was not opened needs no entry. -/
theorem exists_charts_old (knows : a.Knows h) (numbered : h.Numbered n)
    (new : command.BringsClient → ∀ k, h'.client? = some k → n ≤ k) (le : n ≤ m)
    (shares : h.Shares h') (own : ∀ k, h'.number? = some k → h.number? = some k)
    (plain : h'.opened? = none) :
    ∃ b, Agrees n a b ∧ b.Knows h' ∧ h'.Numbered m ∧ b.Charts h command h' := by
  refine ⟨a, .refl n a, knows.shares shares (placeOf_of_not_opened plain).symm, ⟨?_, ?_⟩,
    ⟨?_, fun _ _ => shares.client?, ?_⟩⟩
  · exact fun k leads => Nat.lt_of_lt_of_le (numbered.client k (shares.client? leads)) le
  · exact fun k number => Nat.lt_of_lt_of_le (numbered.own k (own k number)) le
  · rintro setup c rfl rfl
    have lt := numbered.client _ (shares.client? rfl)
    exact absurd lt (Nat.not_lt.mpr (new trivial _ rfl))
  · intro k opened
    rw [plain] at opened
    cases opened

/-- What is opened with a new number gets an entry. -/
theorem exists_charts_opened {serial : Nat} (knows : a.Knows h) (numbered : h.Numbered w.next)
    (le : w.next ≤ w'.next) (gave : Gave w w' serial) (shares : h.Shares h')
    (opened : h'.opened? = some serial) (place : h'.place = h.place) :
    ∃ b, Agrees w.next a b ∧ b.Knows h' ∧ h'.Numbered w'.next ∧ b.Charts h command h' := by
  have here : (a.withPlace serial h.place).place serial = h.place := Function.update_self _ _ _
  have agrees := a.agrees_withPlace gave.1 h.place
  have number := Handle.number?_of_opened? opened
  refine ⟨a.withPlace serial h.place, agrees, ?_, ⟨?_, ?_⟩, ⟨?_, fun _ _ => shares.client?, ?_⟩⟩
  · refine (knows.agrees numbered agrees).shares shares ?_
    rw [placeOf_of_opened? opened, place, here]
  · exact fun k leads => Nat.lt_of_lt_of_le (numbered.client k (shares.client? leads)) le
  · intro k number'
    cases number.symm.trans number'
    exact gave.2
  · rintro setup c rfl rfl
    cases opened
  · intro k opened'
    cases opened.symm.trans opened'
    rw [here, agrees.placeOf numbered, knows.place]

/-- What is brought has an entry, and the entries from before stay. -/
theorem exists_charts (knows : a.Knows h) (numbered : h.Numbered w.next) (le : w.next ≤ w'.next)
    (new : command.BringsClient → ∀ m, h'.client? = some m → w.next ≤ m)
    (issues : h.Issues command w w' h') :
    ∃ b, Agrees w.next a b ∧ b.Knows h' ∧ h'.Numbered w'.next ∧ b.Charts h command h' := by
  -- only a new client and an opened cursor or stream need an entry of their own
  have old := exists_charts_old knows numbered new le
  cases issues with
  | again stateless =>
    refine old (fun g operates => ⟨g, operates, rfl⟩) (fun _ => id) ?_
    cases h <;> first | rfl | cases stateless
  | owner d maker =>
    subst maker
    exact old (by rintro _ ⟨rfl⟩; exact ⟨_, rfl, rfl⟩) (by rintro _ ⟨⟩) rfl
  | parent c maker =>
    subst maker
    exact old (by rintro _ ⟨rfl⟩; exact ⟨_, rfl, rfl⟩) (by rintro _ ⟨⟩) rfl
  | collection d name maker =>
    subst maker
    exact old (by rintro _ ⟨rfl⟩; exact ⟨_, rfl, rfl⟩) (by rintro _ ⟨⟩) rfl
  | database c name serial maker entered =>
    subst maker
    exact old (by rintro _ ⟨rfl⟩; exact ⟨_, rfl, rfl⟩) (by rintro _ ⟨⟩) rfl
  | signal s maker =>
    subst maker
    exact old (by rintro _ ⟨⟩) (fun _ => id) rfl
  | client c c' setup maker asked made gave =>
    have here : (a.withUrl c'.connection.client c'.connection.endpoint.url).url
        c'.connection.client = c'.connection.endpoint.url := Function.update_self _ _ _
    refine ⟨a.withUrl c'.connection.client c'.connection.endpoint.url, a.agrees_withUrl gave.1 _,
      ⟨?_, rfl⟩, ⟨?_, by rintro _ ⟨⟩⟩, ⟨?_, ?_, by rintro _ ⟨⟩⟩⟩
    · rintro _ ⟨rfl⟩
      exact here.symm
    · rintro _ ⟨rfl⟩
      exact gave.2
    · rintro setup' _ same ⟨rfl⟩
      cases asked.symm.trans same
      rw [Setup.url_of_client made, here]
    · rw [asked]
      exact fun other => absurd trivial other
  | cursor g serial seed maker gave =>
    refine exists_charts_opened knows numbered le gave ?_ rfl (Handle.place_of_gateway? maker).symm
    rintro _ ⟨rfl⟩
    exact ⟨g, maker, rfl⟩
  | stream g serial seed maker gave =>
    refine exists_charts_opened knows numbered le gave ?_ rfl (Handle.place_of_gateway? maker).symm
    rintro _ ⟨rfl⟩
    exact ⟨g, maker, rfl⟩

end charts

end Atlas

/-! ## Steps -/

namespace Session

variable {s : Session} {st : Step} {h : Handle} {a b : Atlas}

/-- What went over the wire in a step on a handle. -/
def exchanged (s : Session) (st : Step) (h : Handle) : List Exchange :=
  World.exchanges h.number? (h.patience st.command (limits st h s.world)) s.world
    (s.step st).2.world

/-- The requests of a step on a handle are made as the atlas tells. -/
structure Routed (a : Atlas) (s : Session) (st : Step) (h : Handle) : Prop where
  /-- The requests of the exchanges are what was posted. -/
  posted : (s.step st).1.posted = (s.exchanged st h).map (·.request)
  /-- Each of them is made on the handle as it stands then. -/
  directed : InTurn (fun prior e => a.Directs h prior e.request) (s.exchanged st h)
  /-- The handle is left with the token that came last, unless it gave it up. -/
  left : ∀ h', (s.serve st h).2.1 = some h' →
    h'.held [] = h.held (s.exchanged st h) ∨ h'.held [] = none

/-- What is served is made on the handle as it stands. -/
theorem serve_converses (s : Session) (own : ¬ h.PassesThrough st.command) :
    ∃ v es, h.Converses (h.patience st.command (limits st h s.world)) s.world (s.serve st h).2.1
        v es
      ∧ (s.serve st h).2.2.posted = v.posted := by
  rcases s.serving st h with ⟨v, became, _, keeps, same⟩ | ⟨service, known, same⟩
  · rw [show s.serve st h = _ from same s.world]
    refine ⟨s.world, [], ?_, rfl⟩
    rcases keeps with rfl | rfl
    · exact Handle.converses_nothing _ (.refl s.world)
    · refine ⟨(Still.refl s.world).had, inTurn_nil _, ?_⟩
      rintro _ ⟨⟩
  · rw [show s.serve st h = _ from same s.world]
    obtain ⟨es, converses⟩ :=
      Handle.service_converses known own (limits st h s.world) s.world
    exact ⟨_, es, converses, (joined_apart _ _ _).1⟩

/-- The requests of a step are made as the atlas tells if the handle is where it says. -/
theorem routed_of_knows (known : s.handle? st.target = some h) (knows : a.Knows h)
    (own : ¬ h.PassesThrough st.command) : Routed a s st h := by
  obtain ⟨v, es, converses, posted⟩ := s.serve_converses own
  have after : (s.step st).2.world.posted = v.posted := by
    rw [step_of_handle known]
    exact posted
  have same : s.exchanged st h = es := by
    unfold exchanged World.exchanges
    rw [after]
    exact converses.had.exchanges_eq
  refine ⟨posted_of_serve known ?_, ?_, ?_⟩
  · rw [posted, same]
    exact converses.had.posted
  · rw [same]
    exact converses.asked.mono fun prior e asks => knows.directs asks
  · rw [same]
    exact converses.left

/-! ## Runs -/

/-- The handles of a session are where the atlas says. -/
structure Mapped (a : Atlas) (s : Session) : Prop where
  /-- The atlas knows each of them. -/
  knows : ∀ name h, s.handle? name = some h → a.Knows h
  /-- Their numbers have been given away. -/
  numbered : ∀ name h, s.handle? name = some h → h.Numbered s.world.next

/-- The handles of a session stay where the atlas says while the atlas grows. -/
theorem Mapped.agrees (mapped : Mapped a s) (agrees : Atlas.Agrees s.world.next a b) :
    Mapped b s :=
  ⟨fun name h known => (mapped.knows name h known).agrees (mapped.numbered name h known) agrees,
    mapped.numbered⟩

/-- A session begins with an atlas of one client. -/
theorem exists_mapped_start {remote : Remote} {name : String} {setup : Setup}
    (started : Session.start remote name setup = .ok s) : ∃ a, Mapped a s ∧ s.world.next = 1
      ∧ ∀ c, s.handle? name = some (.client c) → c.connection.client = 0
        ∧ Endpoint.urlOfText setup.uri = .ok (a.url c.connection.client) := by
  unfold Session.start at started
  dsimp only at started
  split at started
  · next c made =>
    cases started
    have number := Setup.number_of_client made
    have one {other : String} {h : Handle}
        (found : [(name, Handle.client c)].lookup other = some h) : h = .client c := by
      rw [List.lookup_cons] at found
      split at found <;> cases found
      rfl
    refine ⟨⟨fun _ => c.connection.endpoint.url, fun _ => ⟨none, none⟩⟩, ⟨?_, ?_⟩, rfl, ?_⟩
    · intro other h known
      rw [one known]
      refine ⟨?_, rfl⟩
      rintro _ ⟨rfl⟩
      rfl
    · intro other h known
      rw [one known]
      refine ⟨?_, by rintro _ ⟨⟩⟩
      rintro _ ⟨rfl⟩
      rw [number]
      exact Nat.zero_lt_one
    · intro c' known
      cases one known
      exact ⟨number, Setup.url_of_client made⟩
  · cases started

/-- What a step brings gets its entry in the atlas. -/
theorem Mapped.exists_charts (mapped : Mapped a s) (known : s.handle? st.target = some h) :
    ∃ b, Atlas.Agrees s.world.next a b
      ∧ ∀ h', (s.step st).1.verdict.handle? = some h' → b.Knows h'
        ∧ b.Charts h st.command h' ∧ h'.Numbered (s.step st).2.world.next := by
  have provides := s.serve_provides st h
  rw [step_of_handle known]
  rcases brought : (s.serve st h).1.handle? with _ | h'
  · refine ⟨a, .refl _ a, ?_⟩
    rintro h' ⟨⟩
  · have new (brings : st.command.BringsClient) (m : Nat) (leads : h'.client? = some m) :
        s.world.next ≤ m := by
      obtain ⟨_, _, c, rfl, number⟩ := serve_newClient brings brought
      cases leads
      exact Nat.le_of_eq number.symm
    obtain ⟨b, agrees, knows, numbered, charts⟩ := Atlas.exists_charts
      (mapped.knows _ h known) (mapped.numbered _ h known) provides.next_le new
      (provides.delivers h' brought)
    refine ⟨b, agrees, ?_⟩
    rintro _ ⟨rfl⟩
    exact ⟨knows, charts, numbered⟩

/-- A step enters what it brings into the atlas. -/
theorem Mapped.step (mapped : Mapped a s) (st : Step) :
    ∃ b, Atlas.Agrees s.world.next a b ∧ Mapped b (s.step st).2
      ∧ s.world.next ≤ (s.step st).2.world.next
      ∧ ∀ h h', s.handle? st.target = some h → (s.step st).1.verdict.handle? = some h' →
        b.Charts h st.command h' ∧ h'.Numbered (s.step st).2.world.next := by
  rcases known : s.handle? st.target with _ | h
  · rw [step_of_none known]
    refine ⟨a, .refl _ a, mapped, Nat.le_refl _, ?_⟩
    rintro h h' ⟨⟩
  obtain ⟨b, agrees, brought⟩ := mapped.exists_charts known
  have provides := s.serve_provides st h
  have grows := next_le_step s st
  have mapped' := mapped.agrees agrees
  refine ⟨b, agrees, ⟨?_, ?_⟩, grows, ?_⟩
  · intro name h' found
    rcases handle?_step known found with became | came | old
    · exact (mapped'.knows _ h known).becomes (provides.becomes h' became)
    · exact (brought h' (by rw [step_of_handle known]; exact came)).1
    · exact mapped'.knows name h' old
  · intro name h' found
    rcases handle?_step known found with became | came | old
    · exact ((mapped'.numbered _ h known).becomes (provides.becomes h' became)).mono grows
    · exact (brought h' (by rw [step_of_handle known]; exact came)).2.2
    · exact (mapped'.numbered name h' old).mono grows
  · rintro _ h' ⟨rfl⟩ came
    exact (brought h' came).2

/-- A step is made as the atlas tells: what it brings has an entry, the handle in use stays the one
that it is, and its requests go where they belong unless a call is passed through. -/
structure Charted (a : Atlas) (s : Session) (st : Step) : Prop where
  /-- Nothing is posted on no handle. -/
  unknown : s.handle? st.target = none → (s.step st).1.posted = []
  /-- What is brought has an entry. -/
  charts : ∀ h h', s.handle? st.target = some h → (s.step st).1.verdict.handle? = some h' →
    a.Charts h st.command h'
  /-- The handle stays the one that it is. -/
  becomes : ∀ h h', s.handle? st.target = some h → (s.serve st h).2.1 = some h' → h.Becomes h'
  /-- Its requests are made as the atlas tells. -/
  routed : ∀ h, s.handle? st.target = some h → ¬ h.PassesThrough st.command → Routed a s st h

/-- A session draws its atlas while it runs, and no entry changes. -/
theorem Mapped.run (mapped : Mapped a s) (steps : List Step) :
    ∃ b, Atlas.Agrees s.world.next a b ∧ Always (Charted b) s steps := by
  induction steps generalizing s a with
  | nil => exact ⟨a, .refl _ a, always_nil _ s⟩
  | cons st rest ih =>
    obtain ⟨b, agrees, mapped', grows, charts⟩ := mapped.step st
    obtain ⟨c, agrees', always⟩ := ih mapped'
    have before := agrees.trans agrees' grows
    refine ⟨c, before, always_cons.mpr ⟨⟨?_, ?_, ?_, ?_⟩, always⟩⟩
    · intro unknown
      rw [step_of_none unknown]
    · intro h h' known brought
      obtain ⟨charts, numbered⟩ := charts h h' known brought
      exact charts.agrees agrees' ((mapped.numbered _ h known).mono grows) numbered
    · intro h h' known
      exact (s.serve_provides st h).becomes h'
    · intro h known own
      exact routed_of_knows known ((mapped.agrees before).knows _ h known) own

/-- Where requests go.  For every run of a session there is an atlas, which has for each client the
URL that it was made with, and for each cursor and change stream the place of the handle that opened
it.  Every request is made as the atlas tells: it goes to the URL of the client of the handle that
is in use, and its context has the kind of that handle, its names in the atlas, and the token that
it holds at that moment; there is one if and only if the handle has a state of its own. -/
theorem requests_routed {remote : Remote} {name : String} {setup : Setup}
    (started : Session.start remote name setup = .ok s) (steps : List Step) :
    ∃ a : Atlas,
      (∀ c, s.handle? name = some (.client c) →
        Endpoint.urlOfText setup.uri = .ok (a.url c.connection.client))
      ∧ Always (Charted a) s steps := by
  obtain ⟨a, mapped, next, first⟩ := exists_mapped_start started
  obtain ⟨b, agrees, always⟩ := mapped.run steps
  refine ⟨b, fun c known => ?_, always⟩
  obtain ⟨number, url⟩ := first c known
  have lt : c.connection.client < s.world.next := by
    rw [number, next]
    exact Nat.zero_lt_one
  rw [agrees.url _ lt]
  exact url

/-- A session with one client, which is asked what it knows of its server. -/
theorem single_request_routed :
    ∃ s, Session.start (.ofScript []) "client" ⟨"http://h/", [], some .standard⟩ = .ok s
      ∧ ∃ a, Charted a s ⟨"client", .serverInfo, none, none, none⟩
        ∧ Endpoint.urlOfText "http://h/" = .ok (a.url 0) := by
  have starts : (Session.start (.ofScript []) "client" ⟨"http://h/", [], some .standard⟩).isOk
      = true := by decide +kernel
  rcases started : Session.start (.ofScript []) "client" ⟨"http://h/", [], some .standard⟩
    with e | s
  · rw [started] at starts
    cases starts
  · obtain ⟨c, number, same⟩ := exists_client_of_start started
    obtain ⟨a, urls, always⟩ :=
      requests_routed started [⟨"client", .serverInfo, none, none, none⟩]
    have known : s.handle? "client" = some (.client c) := by
      rw [same]
      rfl
    have url := urls c known
    rw [number] at url
    exact ⟨s, rfl, a, (always_cons.mp always).1, url⟩

end Session

end RemoteDriver
