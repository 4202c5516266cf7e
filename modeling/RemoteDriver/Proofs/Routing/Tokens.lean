import RemoteDriver.Proofs.Cursor.Lifecycle
import RemoteDriver.Proofs.ChangeStream.Lifecycle
import RemoteDriver.Proofs.Failure.Services

/-!
# Tokens in requests

A cursor and a change stream hold a token that the remote side gave out, and each answer may bring
another one.  Whatever is asked of them, and however many requests that takes, each request is made
with the token that is held at that moment: it is the one that the answers before it leave.

`Tracks` says so of a list of exchanges.  It is shown once for a fetch and for closing, and is
carried through the loops by `uses_of_rounds`.
-/

namespace RemoteDriver

open Bson (Document Value)
open World (Sends)

/-! ## Exchanges in turn -/

/-- Each of the exchanges is as `P` tells of those before it. -/
def InTurn (P : List Exchange → Exchange → Prop) (es : List Exchange) : Prop :=
  ∀ prior e later, es = prior ++ e :: later → P prior e

section inTurn

variable {P P' : List Exchange → Exchange → Prop} {es fs : List Exchange} {e : Exchange}

/-- Without exchanges there is nothing to tell. -/
theorem inTurn_nil (P : List Exchange → Exchange → Prop) : InTurn P [] := by
  intro prior e later split
  exact absurd split.symm (by simp)

/-- A single exchange has none before it. -/
theorem inTurn_singleton (holds : P [] e) : InTurn P [e] := by
  intro prior e' later split
  rcases prior with _ | ⟨first, rest⟩
  · cases split
    exact holds
  · cases rest <;> cases split

/-- The first exchange has none before it. -/
theorem InTurn.head (inTurn : InTurn P (e :: es)) : P [] e := inTurn [] e es rfl

/-- What follows from the exchanges before one holds in turn as well. -/
theorem InTurn.mono (inTurn : InTurn P es) (implies : ∀ prior e, P prior e → P' prior e) :
    InTurn P' es :=
  fun prior e later split => implies prior e (inTurn prior e later split)

/-- Exchanges in turn are put together when the later ones know of the earlier. -/
theorem InTurn.append (first : InTurn P es)
    (second : InTurn (fun prior e => P (es ++ prior) e) fs) : InTurn P (es ++ fs) := by
  intro prior e later split
  rcases List.append_eq_append_iff.mp split with ⟨more, rfl, rest⟩ | ⟨more, rfl, rest⟩
  · exact second more e later rest
  · rcases more with _ | ⟨e', more⟩
    · have next := second [] e later rest.symm
      rw [List.append_nil, List.append_nil] at next
      exact next
    · cases rest
      exact first prior e more rfl

end inTurn

/-! ## Following a token -/

/-- How the token that is held comes of the answers. -/
structure Lawful (latest : Option String → List Exchange → Option String) : Prop where
  /-- Without an answer it stays. -/
  nil : ∀ held, latest held [] = held
  /-- Answers count one after the other. -/
  append : ∀ held es fs, latest held (es ++ fs) = latest (latest held es) fs

/-- Exchanges were made with the token that was held, and left the last one or none. -/
structure Tracks (latest : Option String → List Exchange → Option String)
    (asks : String → Request → Prop) (held : Option String) (es : List Exchange)
    (left : Option String) : Prop where
  /-- Each request was made with the token that was held then. -/
  asked : InTurn (fun prior e => ∃ token, latest held prior = some token ∧ asks token e.request) es
  /-- What is left is the token of the answers, unless it was given up. -/
  left : left = latest held es ∨ left = none

section tracks

variable {latest : Option String → List Exchange → Option String} {asks : String → Request → Prop}
  {held left left' : Option String} {es fs : List Exchange}

/-- Without exchanges the token stays, or is let go. -/
theorem tracks_nothing (lawful : Lawful latest) (stays : left = held ∨ left = none) :
    Tracks latest asks held [] left := by
  refine ⟨inTurn_nil _, ?_⟩
  rw [lawful.nil]
  exact stays

/-- One request with the token that is held leaves what its answer brings, or nothing. -/
theorem tracks_request (lawful : Lawful latest) {e : Exchange} {token : String}
    (holds : held = some token) (asked : asks token e.request)
    (stays : left = latest held [e] ∨ left = none) : Tracks latest asks held [e] left := by
  refine ⟨inTurn_singleton ⟨token, ?_, asked⟩, stays⟩
  rw [lawful.nil]
  exact holds

/-- Nothing is asked for without a token. -/
theorem Tracks.nothing (tracks : Tracks latest asks none es left) (lawful : Lawful latest) :
    es = [] := by
  rcases es with _ | ⟨e, es⟩
  · rfl
  · obtain ⟨token, holds, _⟩ := tracks.asked.head
    rw [lawful.nil] at holds
    cases holds

/-- Following a token goes on from the token that is left. -/
theorem Tracks.trans (lawful : Lawful latest) (first : Tracks latest asks held es left)
    (second : Tracks latest asks left fs left') : Tracks latest asks held (es ++ fs) left' := by
  rcases first.left with same | gone
  · rw [same] at second
    refine ⟨first.asked.append (second.asked.mono fun prior e => ?_), ?_⟩
    · rw [lawful.append]
      exact id
    · rw [lawful.append]
      exact second.left
  · rw [gone] at second
    have none := second.nothing lawful
    rw [none, List.append_nil]
    refine ⟨first.asked, .inr ?_⟩
    rcases second.left with same | gone
    · rw [same, none, lawful.nil]
    · exact gone

end tracks

/-! ## Results -/

/-- A result that is put into words of no handle. -/
theorem handle?_of_map {α : Type} {f : α → Result} {r : Except Halt α} {told : Result}
    (plain : ∀ a, r = .ok a → (f a).handle? = none) (h : r.map f = .ok told) :
    told.handle? = none := by
  cases r <;> cases h
  exact plain _ rfl

/-! ## Cursors -/

namespace Cursor

/-- The last token of a cursor comes of its answers one by one. -/
theorem lawful_lastToken (codec : Codec) : Lawful (lastToken codec) :=
  ⟨fun _ => rfl, lastToken_append codec⟩

/-- A request on a cursor: it goes to the endpoint of the client, with the database and the
collection of the object that opened the cursor, with this token, and with the headers of the
endpoint. -/
def Addresses (c : Cursor) (token : String) (r : Request) : Prop :=
  r.url = c.connection.endpoint.url
    ∧ r.envelope.context = ⟨.commandCursor, c.origin.database, c.origin.collection, some token⟩
    ∧ r.headers = c.connection.endpoint.headers

/-- A cursor after exchanges: it is the same one, and has followed its token. -/
structure Follows (c : Cursor) (es : List Exchange) (c' : Cursor) : Prop where
  /-- It has the same connection. -/
  connection : c'.connection = c.connection
  /-- It was opened on the same object. -/
  origin : c'.origin = c.origin
  /-- It has the same number. -/
  serial : c'.serial = c.serial
  /-- It has followed its token. -/
  tokens : Tracks (lastToken c.connection.codec) c.Addresses c.cursorId es c'.cursorId

/-- The use of a cursor has exchanges that are made with its token, and does nothing else. -/
def Pursues (deadline : Nat) (c : Cursor) (w : World) (c' : Cursor) (w' : World) : Prop :=
  ∃ es, Sends (some c.serial) (fun _ => deadline) w es w' ∧ c.Follows es c'

section pursues

variable {c c' c'' : Cursor} {es fs : List Exchange} {deadline : Nat} {w w' w'' : World}

/-- A cursor that has followed its token goes on following it. -/
theorem Follows.trans (first : c.Follows es c') (second : c'.Follows fs c'') :
    c.Follows (es ++ fs) c'' := by
  have tokens := second.tokens
  have same : c'.Addresses = c.Addresses := by
    unfold Addresses
    rw [first.connection, first.origin]
  rw [same, first.connection] at tokens
  exact ⟨second.connection.trans first.connection, second.origin.trans first.origin,
    second.serial.trans first.serial, first.tokens.trans (lawful_lastToken _) tokens⟩

/-- A use without requests leaves the token as it is, or gives it up. -/
theorem follows_nothing (same : c'.connection = c.connection ∧ c'.origin = c.origin
    ∧ c'.serial = c.serial) (stays : c'.cursorId = c.cursorId ∨ c'.cursorId = none) :
    c.Follows [] c' :=
  ⟨same.1, same.2.1, same.2.2, tracks_nothing (lawful_lastToken _) stays⟩

/-- A cursor that posts nothing and keeps its token, or lets it go, has followed it. -/
theorem pursues_nothing (deadline : Nat) (w : World) (same : c'.connection = c.connection
    ∧ c'.origin = c.origin ∧ c'.serial = c.serial)
    (stays : c'.cursorId = c.cursorId ∨ c'.cursorId = none) : c.Pursues deadline w c' w :=
  ⟨[], .nil _ _ _, follows_nothing same stays⟩

/-- A cursor that nothing is done to has followed its token. -/
theorem pursues_self (deadline : Nat) (c : Cursor) (w : World) : c.Pursues deadline w c w :=
  pursues_nothing deadline w ⟨rfl, rfl, rfl⟩ (.inl rfl)

/-- Two uses of a cursor one after the other are one use. -/
theorem Pursues.trans (first : c.Pursues deadline w c' w')
    (second : c'.Pursues deadline w' c'' w'') : c.Pursues deadline w c'' w'' := by
  obtain ⟨es, sends, follows⟩ := first
  obtain ⟨fs, sends', follows'⟩ := second
  rw [follows.serial] at sends'
  exact ⟨es ++ fs, sends.trans sends', follows.trans follows'⟩

/-- The request of a call with a token. -/
theorem addresses_of_carries {token : String} {call : Call} {e : Exchange} (carries :
    c.connection.Carries call (c.origin.stateful .commandCursor token) w e) :
    c.Addresses token e.request := by
  obtain ⟨envelope, made, request⟩ := carries.request
  rw [request]
  exact ⟨rfl, (Envelope.ofCall_ok made).2.1, rfl⟩

/-- The token after an exchange about the next batch. -/
theorem cursorId_told (c : Cursor) (e : Exchange) :
    (c.told e).cursorId = lastToken c.connection.codec c.cursorId [e] := by
  rcases brought : e.part c.connection.codec with (err | _) | seed
  · rw [told_of_failed brought, lastToken_nothing (by rw [brought]; rfl)]
  · rw [told_of_abandoned brought, lastToken_nothing (by rw [brought]; rfl)]
  · rw [told_of_part brought, lastToken_part brought]
    rfl

end pursues

variable (c : Cursor) (limits : Limits) (w : World)

/-- A fetch is made with the token that is held. -/
theorem advance_pursues :
    c.Pursues limits.deadline w (c.advance limits w).2.1 (c.advance limits w).2.2 := by
  cases c.advanced limits w with
  | spent ended result =>
    rw [result]
    exact c.pursues_self _ w
  | tokenless isOpen held result =>
    rw [result]
    exact pursues_nothing _ w ⟨rfl, rfl, rfl⟩ (.inl rfl)
  | refused token err isOpen held refuses result =>
    rw [result]
    exact pursues_nothing _ w ⟨rfl, rfl, rfl⟩ (.inl rfl)
  | sent token e w' isOpen held carries sends result =>
    obtain ⟨connection, origin, serial⟩ := (Step.ask token w e isOpen held carries).same
    rw [result]
    refine ⟨[e], sends, connection, origin, serial, ?_⟩
    exact tracks_request (lawful_lastToken _) held (addresses_of_carries carries)
      (.inl (c.cursorId_told e))

/-- Asking for the next document fetches with the token that is held at each turn. -/
theorem tryNext_pursues :
    c.Pursues limits.deadline w (c.tryNext limits w).2.1 (c.tryNext limits w).2.2 := by
  fun_induction tryNext c limits w with
  | case1 c w d left front => exact pursues_nothing _ w ⟨rfl, rfl, rfl⟩ (.inl rfl)
  | case2 c w empty ended => exact c.pursues_self _ w
  | case3 c w empty isOpen b c' w' advanced ih =>
    have first := c.advance_pursues limits w
    rw [advanced] at first
    exact first.trans ih
  | case4 c w empty isOpen h c' w' advanced =>
    have first := c.advance_pursues limits w
    rw [advanced] at first
    exact first

/-- What was begun with a cursor goes on with the next document. -/
theorem uses_tryNext {first : Cursor} {v : World} (begun : first.Pursues limits.deadline v c w) :
    Uses (fun _ _ _ => True) (first.Pursues limits.deadline v) failure? w (c.tryNext limits w) :=
  ⟨trivial, begun.trans (c.tryNext_pursues limits w)⟩

/-- Collecting fetches with the token that is held at each turn. -/
theorem collect_pursues :
    c.Pursues limits.deadline w (c.collect limits w).2.1 (c.collect limits w).2.2 :=
  (uses_of_rounds (fun _ _ => trivial) tells_collectTurn (fun c v => c.uses_tryNext limits v)
    collect_round c w (c.pursues_self _ w)).own

/-- A stream of documents fetches with the token that is held at each turn. -/
theorem stream_pursues :
    c.Pursues limits.deadline w (c.stream limits w).2.1 (c.stream limits w).2.2 :=
  (uses_of_rounds (fun _ _ => trivial) (tells_drainTurn Cursor)
    (fun c v => c.uses_tryNext limits v) stream_round c w (c.pursues_self _ w)).own

/-- Taking some documents fetches with the token that is held at each turn. -/
theorem take_pursues (count : Nat) :
    c.Pursues limits.deadline w (take count c limits w).2.1 (take count c limits w).2.2 := by
  have goes {first : Cursor} {v : World} (begun : first.Pursues limits.deadline v c w) :
      Uses (fun _ _ _ => True) (first.Pursues limits.deadline v)
        (fun r : List Document × Ending => r.2.failure?) w (take count c limits w) := by
    induction count generalizing c w with
    | zero => exact ⟨trivial, begun⟩
    | succ count ih =>
      rw [take_succ]
      exact uses_unrolled (fun _ _ => trivial) (tells_drainTurn Cursor)
        (c.uses_tryNext limits w begun) fun _ c' w' _ _ _ begun => ih c' w' begun
  exact (goes (c.pursues_self _ w)).own

/-- Closing posts the token that is held. -/
theorem close_pursues :
    c.Pursues limits.deadline w (c.close limits w).2.1 (c.close limits w).2.2 := by
  obtain ⟨es, sends, parting, after⟩ := c.close_parting limits w
  rw [after]
  refine ⟨es, sends, rfl, rfl, rfl, ?_⟩
  rcases parting with rfl | ⟨token, e, isOpen, held, request, rfl⟩
  · exact tracks_nothing (lawful_lastToken _) (.inr rfl)
  · refine tracks_request (lawful_lastToken _) held ?_ (.inr rfl)
    rw [request]
    exact ⟨rfl, rfl, rfl⟩

/-- What a cursor itself makes of a call by name. -/
theorem answer_pursues (name : String) (args : List Value) (kwargs : Document) :
    c.Pursues limits.deadline w (c.answer name args kwargs limits w).2.1
      (c.answer name args kwargs limits w).2.2 := by
  unfold answer
  split
  · exact c.pursues_self _ w
  split
  · exact c.pursues_self _ w
  split
  · exact c.pursues_self _ w
  split
  · have pursues := c.tryNext_pursues limits w
    generalize c.tryNext limits w = r at pursues
    obtain ⟨_ | d, c', w'⟩ := r <;> exact pursues
  split
  · have pursues := c.close_pursues limits w
    generalize c.close limits w = r at pursues
    obtain ⟨_ | _, c', w'⟩ := r <;> exact pursues
  split
  · cases sizeArgument args kwargs with
    | none => exact c.pursues_self _ w
    | some size => exact pursues_nothing _ w ⟨rfl, rfl, rfl⟩ (.inl rfl)
  · exact c.pursues_self _ w

/-- A call by name does with the token what the operation of that name does. -/
theorem invoke_pursues (name : String) (args : List Value) (kwargs : Document) :
    c.Pursues limits.deadline w (c.invoke name args kwargs limits w).2.1
      (c.invoke name args kwargs limits w).2.2 := by
  unfold invoke
  rcases resolved : c.gateway.resolve name args kwargs with err | _ | _
  · exact c.pursues_self _ w
  · exact absurd resolved (c.resolve_ne_remote name args kwargs)
  · exact c.answer_pursues limits w name args kwargs

/-- A cursor that is called by name answers with a value. -/
theorem value_of_invoke {name : String} {args : List Value} {kwargs : Document} {o : Outcome}
    (h : (c.invoke name args kwargs limits w).1 = .ok o) : ∃ v, o = .value v := by
  unfold invoke at h
  split at h
  · cases h
  · next served => exact absurd served (c.resolve_ne_remote name args kwargs)
  · exact value_of_answer h

/-- Whatever only cursors know is pursued, and brings no handle. -/
theorem own_pursues {command : Command} {service : Service}
    (known : c.own? command = some service) :
    ∃ c', c.Pursues limits.deadline w c' (service limits w).2.2
      ∧ (∀ h, (service limits w).2.1 = some h → h = .cursor c')
      ∧ ∀ r, (service limits w).1 = .ok r → r.handle? = none := by
  have became (c' : Cursor) (h : Handle) (same : some (.cursor c') = some h) : h = .cursor c' :=
    (Option.some.inj same).symm
  have gone (c' : Cursor) (h : Handle) (same : none = some h) : h = .cursor c' := by cases same
  cases command <;> simp only [own?, Option.some.injEq, reduceCtorEq] at known <;> subst known
  case invoke call into =>
    refine ⟨_, c.invoke_pursues limits w call.name call.args call.kwargs, became _, ?_⟩
    refine fun r told => handle?_of_map (fun o called => ?_) told
    obtain ⟨v, rfl⟩ := c.value_of_invoke limits w called
    exact Client.handle?_ofOutcome_value v into
  case look => exact ⟨_, c.pursues_self _ w, became _, by rintro _ ⟨⟩; rfl⟩
  case describe => exact ⟨_, c.pursues_self _ w, became _, by rintro _ ⟨⟩; rfl⟩
  case batchSize size =>
    exact ⟨c.withBatchSize size, pursues_nothing _ w ⟨rfl, rfl, rfl⟩ (.inl rfl), became _,
      by rintro _ ⟨⟩; rfl⟩
  case advance =>
    exact ⟨_, c.advance_pursues limits w, became _, fun _ => handle?_of_map fun _ _ => rfl⟩
  case tryNext =>
    exact ⟨_, c.tryNext_pursues limits w, became _, fun _ => handle?_of_map fun _ _ => rfl⟩
  case close =>
    exact ⟨_, c.close_pursues limits w, became _, fun _ => handle?_of_map fun _ _ => rfl⟩
  case collect =>
    exact ⟨_, c.collect_pursues limits w, gone _, fun _ => handle?_of_map fun _ _ => rfl⟩
  case stream =>
    exact ⟨_, c.stream_pursues limits w, gone _, fun _ => handle?_toDocuments⟩
  case take count =>
    exact ⟨_, c.take_pursues limits w count, gone _, fun _ => handle?_toItems⟩

end Cursor

/-! ## Change streams -/

namespace ChangeStream

/-- The latest token of a change stream comes of its answers one by one. -/
theorem lawful_latestId (codec : Codec) : Lawful (latestId codec) := by
  refine ⟨fun held => rfl, fun held es fs => ?_⟩
  unfold latestId
  rw [List.filterMap_append, List.getLast?_append, Option.or_assoc]

/-- A request on a change stream: it goes to the endpoint of the client, with the database and the
collection of the object that opened the stream, with this token, and with the headers of the
endpoint. -/
def Addresses (s : ChangeStream) (id : String) (r : Request) : Prop :=
  r.url = s.connection.endpoint.url
    ∧ r.envelope.context = ⟨.changeStream, s.origin.database, s.origin.collection, some id⟩
    ∧ r.headers = s.connection.endpoint.headers

/-- A change stream after exchanges: it is the same one, and has followed its token. -/
structure Follows (s : ChangeStream) (es : List Exchange) (s' : ChangeStream) : Prop where
  /-- It has the same connection. -/
  connection : s'.connection = s.connection
  /-- It was opened on the same object. -/
  origin : s'.origin = s.origin
  /-- It has the same number. -/
  serial : s'.serial = s.serial
  /-- It has followed its token. -/
  tokens : Tracks (latestId s.connection.codec) s.Addresses s.streamId es s'.streamId

/-- Asking a change stream for events has exchanges that are made with its token, and does nothing
else. -/
def Pursues (limits : Limits) (s : ChangeStream) (w : World) (s' : ChangeStream) (w' : World) :
    Prop :=
  ∃ es, Sends (some s.serial) (s.endurance limits) w es w' ∧ s.Follows es s'
    ∧ s'.timeout = s.timeout

/-- Whatever is done with a change stream, its close signal may fire first; then there are exchanges
that are made with its token, and nothing else is done. -/
def Attends (deadline : Nat → Nat) (s : ChangeStream) (w : World) (s' : ChangeStream)
    (w' : World) : Prop :=
  ∃ v es, (v = w ∨ v = w.fire s.serial) ∧ Sends (some s.serial) deadline v es w'
    ∧ s.Follows es s'

section pursues

variable {s s' s'' : ChangeStream} {es fs : List Exchange} {limits : Limits} {w w' w'' : World}
  {r : Except Halt (Option Document)} {deadline : Nat → Nat}

/-- A change stream that has followed its token goes on following it. -/
theorem Follows.trans (first : s.Follows es s') (second : s'.Follows fs s'') :
    s.Follows (es ++ fs) s'' := by
  have tokens := second.tokens
  have same : s'.Addresses = s.Addresses := by
    unfold Addresses
    rw [first.connection, first.origin]
  rw [same, first.connection] at tokens
  exact ⟨second.connection.trans first.connection, second.origin.trans first.origin,
    second.serial.trans first.serial, first.tokens.trans (lawful_latestId _) tokens⟩

/-- A use without requests leaves the token as it is, or gives it up. -/
theorem follows_nothing (same : s'.connection = s.connection ∧ s'.origin = s.origin
    ∧ s'.serial = s.serial) (stays : s'.streamId = s.streamId ∨ s'.streamId = none) :
    s.Follows [] s' :=
  ⟨same.1, same.2.1, same.2.2, tracks_nothing (lawful_latestId _) stays⟩

/-- A change stream that nothing is asked of has followed its token. -/
theorem pursues_self (limits : Limits) (s : ChangeStream) (w : World) : s.Pursues limits w s w :=
  ⟨[], .nil _ _ _, follows_nothing ⟨rfl, rfl, rfl⟩ (.inl rfl), rfl⟩

/-- Asking twice is following the token from the first asking to the second. -/
theorem Pursues.trans (first : s.Pursues limits w s' w') (second : s'.Pursues limits w' s'' w'') :
    s.Pursues limits w s'' w'' := by
  obtain ⟨es, sends, follows, timeout⟩ := first
  obtain ⟨fs, sends', follows', timeout'⟩ := second
  rw [follows.serial, endurance_eq follows.serial timeout] at sends'
  exact ⟨es ++ fs, sends.trans sends', follows.trans follows', timeout'.trans timeout⟩

/-- Asking for events lasts as long as the stream endures, whether its signal has fired or not. -/
theorem Pursues.attends (pursues : s.Pursues limits w s' w') :
    s.Attends (s.endurance limits) w s' w' := by
  obtain ⟨es, sends, follows, _⟩ := pursues
  exact ⟨w, es, .inl rfl, sends, follows⟩

/-- A stream that posts nothing and keeps its token, or lets it go, has followed it. -/
theorem attends_nothing (deadline : Nat → Nat) (w : World) (same : s'.connection = s.connection
    ∧ s'.origin = s.origin ∧ s'.serial = s.serial)
    (stays : s'.streamId = s.streamId ∨ s'.streamId = none) : s.Attends deadline w s' w :=
  ⟨w, [], .inl rfl, .nil _ _ _, follows_nothing same stays⟩

/-- A change stream that nothing is done to has followed its token. -/
theorem attends_self (deadline : Nat → Nat) (s : ChangeStream) (w : World) :
    s.Attends deadline w s w :=
  attends_nothing deadline w ⟨rfl, rfl, rfl⟩ (.inl rfl)

/-- A fetch is made with the token that is held. -/
theorem Asked.addresses {e : Exchange} (asked : s.Asked limits w e w') :
    ∃ id, s.streamId = some id ∧ s.Addresses id e.request := by
  obtain ⟨id, held, request⟩ := asked.request
  rw [request]
  exact ⟨id, held, rfl, rfl, rfl⟩

/-- The token after an exchange that brings nothing. -/
theorem latestId_nothing {codec : Codec} {held : Option String} {e : Exchange}
    (nothing : e.content = none) : latestId codec held [e] = held := by
  have silent : e.step? codec = none := by
    unfold Exchange.step? Exchange.subscription? Exchange.reply?
    rw [nothing]
    rfl
  unfold latestId
  rw [List.filterMap_cons, silent]
  rfl

/-- A fetch follows the token. -/
theorem Attempted.tokens (h : Attempted s limits w es r s' w') :
    Tracks (latestId s.connection.codec) s.Addresses s.streamId es s'.streamId := by
  have lawful := lawful_latestId s.connection.codec
  have posted {e : Exchange} {left : Option String} (asked : s.Asked limits w e w')
      (stays : left = latestId s.connection.codec s.streamId [e] ∨ left = none) :
      Tracks (latestId s.connection.codec) s.Addresses s.streamId [e] left := by
    obtain ⟨id, held, addresses⟩ := asked.addresses
    exact tracks_request lawful held addresses stays
  cases h with
  | pending | ended | signalled | idless => exact tracks_nothing lawful (.inl rfl)
  | refused => exact tracks_nothing lawful (.inr rfl)
  | failed _ asked => exact posted asked (.inr rfl)
  | interrupted asked nothing | late asked nothing | abandoned asked nothing =>
    exact posted asked (.inl (latestId_nothing nothing).symm)
  | answered seed asked came =>
    refine posted asked ?_
    unfold continued
    rcases seed.alive with _ | _
    · exact .inr rfl
    · have step := latestId_snoc s.connection.codec s.streamId [] ‹_›
      rw [Exchange.step?, came] at step
      exact .inl step.symm

end pursues

variable (s : ChangeStream) (limits : Limits) (w : World)

/-- A single fetch is made with the token that is held. -/
theorem tryNext_pursues :
    s.Pursues limits w (s.tryNext limits w).2.1 (s.tryNext limits w).2.2 := by
  obtain ⟨es, attempted⟩ := s.attempted limits w
  obtain ⟨connection, origin, serial, timeout⟩ := attempted.same
  exact ⟨es, attempted.sends, ⟨connection, origin, serial, attempted.tokens⟩, timeout⟩

/-- What was begun with a change stream goes on with a fetch. -/
theorem uses_tryNext {first : ChangeStream} {v : World} (begun : first.Pursues limits v s w) :
    Uses (fun _ _ _ => True) (first.Pursues limits v) lasting? w (s.tryNext limits w) :=
  ⟨trivial, begun.trans (s.tryNext_pursues limits w)⟩

/-- Waiting for an event fetches with the token that is held at each turn. -/
theorem nextEvent_pursues :
    s.Pursues limits w (s.nextEvent limits w).2.1 (s.nextEvent limits w).2.2 :=
  (uses_of_rounds (fun _ _ => trivial) tells_eventTurn (fun s v => s.uses_tryNext limits v)
    nextEvent_round s w (s.pursues_self limits w)).own

/-- What was begun with a change stream goes on with the next event. -/
theorem uses_nextEvent {first : ChangeStream} {v : World} (begun : first.Pursues limits v s w) :
    Uses (fun _ _ _ => True) (first.Pursues limits v) failure? w (s.nextEvent limits w) :=
  ⟨trivial, begun.trans (s.nextEvent_pursues limits w)⟩

/-- A stream of events fetches with the token that is held at each turn. -/
theorem stream_pursues :
    s.Pursues limits w (s.stream limits w).2.1 (s.stream limits w).2.2 :=
  (uses_of_rounds (fun _ _ => trivial) (tells_drainTurn ChangeStream)
    (fun s v => s.uses_nextEvent limits v) stream_round s w (s.pursues_self limits w)).own

/-- Taking some events fetches with the token that is held at each turn. -/
theorem take_pursues (count : Nat) :
    s.Pursues limits w (take count s limits w).2.1 (take count s limits w).2.2 := by
  have goes {first : ChangeStream} {v : World} (begun : first.Pursues limits v s w) :
      Uses (fun _ _ _ => True) (first.Pursues limits v)
        (fun r : List Document × Ending => r.2.failure?) w (take count s limits w) := by
    induction count generalizing s w with
    | zero => exact ⟨trivial, begun⟩
    | succ count ih =>
      rw [take_succ]
      exact uses_unrolled (fun _ _ => trivial) (tells_drainTurn ChangeStream)
        (s.uses_nextEvent limits w begun) fun _ s' w' _ _ _ begun => ih s' w' begun
  exact (goes (s.pursues_self limits w)).own

/-- Closing posts the token that is held. -/
theorem close_attends :
    s.Attends (fun _ => limits.deadline) w (s.close limits w).2.1 (s.close limits w).2.2 := by
  unfold close
  dsimp only
  split
  · next id held =>
    rcases s.connection.dispatch_refused_or_sent (some s.serial) (.bare "close")
        (s.origin.stateful .changeStream id) limits (w.fire s.serial)
      with ⟨err, refuses, hd⟩ | ⟨e, w', carries, sends, hd⟩
    · rw [hd]
      exact ⟨_, [], .inr rfl, .nil _ _ _, follows_nothing ⟨rfl, rfl, rfl⟩ (.inr rfl)⟩
    · rw [hd]
      have follows :
          s.Follows [e] { s with pending := none, state := .closed, streamId := none } := by
        refine ⟨rfl, rfl, rfl, tracks_request (lawful_latestId _) held ?_ (.inr rfl)⟩
        rw [carries.bare]
        exact ⟨rfl, rfl, rfl⟩
      cases e.result s.connection.codec .abandoned <;>
        exact ⟨_, [e], .inr rfl, sends, follows⟩
  · exact ⟨_, [], .inr rfl, .nil _ _ _, follows_nothing ⟨rfl, rfl, rfl⟩ (.inr rfl)⟩

/-- What a change stream itself makes of a call by name. -/
theorem answer_attends (name : String) (args : List Value) (kwargs : Document) :
    s.Attends ((Demand.invoke name args kwargs).patience s limits) w
      (s.answer name limits w).2.1 (s.answer name limits w).2.2 := by
  unfold answer
  dsimp only
  split
  · exact s.attends_self _ w
  split
  · exact s.attends_self _ w
  split
  · next named =>
    subst named
    have attends := (s.tryNext_pursues limits w).attends
    generalize s.tryNext limits w = r at attends
    obtain ⟨_ | event, s', w'⟩ := r <;> exact attends
  split
  · next named =>
    subst named
    have attends := (s.nextEvent_pursues limits w).attends
    generalize s.nextEvent limits w = r at attends
    obtain ⟨_ | event, s', w'⟩ := r <;> exact attends
  split
  · next named =>
    subst named
    have attends := s.close_attends limits w
    generalize s.close limits w = r at attends
    obtain ⟨_ | _, s', w'⟩ := r <;> exact attends
  · exact s.attends_self _ w

/-- A call by name does with the token what the operation of that name does. -/
theorem invoke_attends (name : String) (args : List Value) (kwargs : Document) :
    s.Attends ((Demand.invoke name args kwargs).patience s limits) w
      (s.invoke name args kwargs limits w).2.1 (s.invoke name args kwargs limits w).2.2 := by
  unfold invoke
  rcases resolved : s.gateway.resolve name args kwargs with err | _ | _
  · exact s.attends_self _ w
  · exact absurd resolved (s.resolve_ne_remote name args kwargs)
  · exact s.answer_attends limits w name args kwargs

/-- A change stream that is called by name answers with a value. -/
theorem value_of_invoke {name : String} {args : List Value} {kwargs : Document} {o : Outcome}
    (h : (s.invoke name args kwargs limits w).1 = .ok o) : ∃ v, o = .value v := by
  unfold invoke at h
  split at h
  · cases h
  · next served => exact absurd served (s.resolve_ne_remote name args kwargs)
  · exact value_of_answer h

/-- Whatever only change streams know is attended, and brings no handle but the close signal. -/
theorem own_attends {command : Command} {service : Service}
    (known : s.own? command = some service) :
    ∃ s', s.Attends (s.patienceFor limits command) w s' (service limits w).2.2
      ∧ (∀ h, (service limits w).2.1 = some h → h = .changeStream s')
      ∧ ∀ r h, (service limits w).1 = .ok r → r.handle? = some h → h = .closeSignal s.serial := by
  have became (s' : ChangeStream) (h : Handle) (same : some (.changeStream s') = some h) :
      h = .changeStream s' := (Option.some.inj same).symm
  have gone (s' : ChangeStream) (h : Handle) (same : none = some h) : h = .changeStream s' := by
    cases same
  have plain {r : Result} {h : Handle} (plain : r.handle? = none) (brings : r.handle? = some h) :
      h = .closeSignal s.serial := by
    rw [plain] at brings
    cases brings
  cases command <;> simp only [own?, Option.some.injEq, reduceCtorEq] at known <;> subst known
  case invoke call into =>
    refine ⟨_, s.invoke_attends limits w call.name call.args call.kwargs, became _, ?_⟩
    refine fun r h told => plain (handle?_of_map (fun o called => ?_) told)
    obtain ⟨v, rfl⟩ := s.value_of_invoke limits w called
    exact Client.handle?_ofOutcome_value v into
  case look => exact ⟨_, s.attends_self _ w, became _, by rintro _ _ ⟨⟩ ⟨⟩⟩
  case describe => exact ⟨_, s.attends_self _ w, became _, by rintro _ _ ⟨⟩ ⟨⟩⟩
  case setTimeout timeout =>
    exact ⟨s.withTimeout timeout, attends_nothing _ w ⟨rfl, rfl, rfl⟩ (.inl rfl), became _,
      by rintro _ _ ⟨⟩ ⟨⟩⟩
  case closeSignal => exact ⟨_, s.attends_self _ w, became _, by rintro _ _ ⟨⟩ ⟨⟩; rfl⟩
  case tryNext =>
    refine ⟨_, (s.tryNext_pursues limits w).attends, became _, fun r h told => plain ?_⟩
    exact handle?_of_map (fun _ _ => rfl) told
  case nextEvent =>
    refine ⟨_, (s.nextEvent_pursues limits w).attends, became _, fun r h told => plain ?_⟩
    exact handle?_of_map (fun _ _ => rfl) told
  case close =>
    refine ⟨_, s.close_attends limits w, became _, fun r h told => plain ?_⟩
    exact handle?_of_map (fun _ _ => rfl) told
  case stream =>
    refine ⟨_, (s.stream_pursues limits w).attends, gone _, fun r h told => plain ?_⟩
    exact handle?_toDocuments told
  case take count =>
    refine ⟨_, (s.take_pursues limits w count).attends, gone _, fun r h told => plain ?_⟩
    exact handle?_toItems told

end ChangeStream

end RemoteDriver
