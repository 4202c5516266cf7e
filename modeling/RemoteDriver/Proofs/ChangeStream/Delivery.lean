import RemoteDriver.Proofs.ChangeStream.Conduct

/-!
# No event is lost, repeated or reordered

The history of a change stream that nobody closes on this side, told by whoever calls it: for each
call when and under which limits it was made, what went over the wire and what it came to.  Calls
that wait for an event and calls that fetch at most one may alternate, each in a world and under
limits of its own.

The main statement is `run_delivers_events`: from the first call on, the events handed out are the
event of the seed and those of all steps that came back, in order; each fetch goes out with the
latest token and none goes out after the end.  As long as the subscription is not over, a call on an
open client asks for the next step, and what comes back for its last fetch decides what it comes to;
a failure comes out of the call in which it came back, and from then on, as after the last step,
every call has nothing to give and asks for nothing.  The invariant behind it is `Account`.
-/

namespace RemoteDriver

open Bson (Document Value)

namespace ChangeStream

open World (Sends)

/-! ## Calls of a change stream -/

/-- A use together with the limits under which it is made and the world that it finds. -/
structure Visit (serial : Nat) where
  /-- What is asked. -/
  use : Use
  /-- Under which limits. -/
  limits : Limits
  /-- In which world. -/
  world : World
  /-- Nobody closes the stream. -/
  undisturbed : Undisturbed serial limits world

/-- A call as it looks from outside. -/
structure Record where
  /-- What was asked. -/
  use : Use
  /-- Under which limits. -/
  limits : Limits
  /-- The world in which it was asked. -/
  found : World
  /-- What went over the wire. -/
  exchanges : List Exchange
  /-- What it came to. -/
  result : Except Halt (Option Document)

namespace Visit

variable {serial : Nat}

/-- What the visit comes to. -/
def outcome (v : Visit serial) (s : ChangeStream) :
    Except Halt (Option Document) × ChangeStream × World :=
  v.use.serve s v.limits v.world

/-- The record of the visit, with the exchanges of its transcript. -/
def record (v : Visit serial) (s : ChangeStream) : Record :=
  ⟨v.use, v.limits, v.world,
    World.exchanges (some s.serial) (s.patience v.limits) v.world (v.outcome s).2.2,
    (v.outcome s).1⟩

end Visit

/-- The records of visits one after the other, and what becomes of the change stream. -/
def run {serial : Nat} (s : ChangeStream) : List (Visit serial) → List Record × ChangeStream
  | [] => ([], s)
  | v :: rest =>
    let (h, s') := run (v.outcome s).2.1 rest
    (v.record s :: h, s')

/-! ## Reading a history -/

/-- The event that a result hands out. -/
def handed : Except Halt (Option Document) → List Document
  | .ok event => event.toList
  | .error _ => []

/-- Whether a result is a failure that is not one of time. -/
def Failing (result : Except Halt (Option Document)) : Prop :=
  ∃ err, result = .error (.failed err) ∧ err.kind ≠ .timeout

/-- The events that were handed out. -/
def delivered (h : List Record) : List Document := h.flatMap fun r => handed r.result

/-- What went over the wire. -/
def exchanges (h : List Record) : List Exchange := h.flatMap (·.exchanges)

/-- The events that came back. -/
def events (codec : Codec) (es : List Exchange) : List Document :=
  es.flatMap fun e => ((e.step? codec).bind (·.event)).toList

/-- The token that came back last, `first` where none has come back yet. -/
def latestId (codec : Codec) (first : Option String) (es : List Exchange) : Option String :=
  (es.filterMap fun e => (e.step? codec).bind (·.streamId)).getLast?.or first

/-- Whether a subscription that began with `seed` is over after some exchanges: it never began, one
of them ended it, or it broke. -/
def Finished (codec : Codec) (seed : StreamSeed) (es : List Exchange) (broken : Prop) : Prop :=
  (seed.alive = false ∨ seed.streamId = none) ∨ (∃ e ∈ es, e.EndsStream codec) ∨ broken

/-- Whether a subscription that began with `seed` is over after a history. -/
def Over (codec : Codec) (seed : StreamSeed) (h : List Record) : Prop :=
  Finished codec seed (exchanges h) (∃ r ∈ h, Failing r.result)

/-- A fetch as it has to be after some exchanges: with the latest token, and on a subscription that
is not over. -/
def AsksOn (connection : Connection) (origin : Route) (seed : StreamSeed) (before : List Exchange)
    (r : Request) : Prop :=
  ¬ Finished connection.codec seed before False
    ∧ ∃ id, latestId connection.codec seed.streamId before = some id
      ∧ r = connection.request ⟨"try_next", [], [], origin.stateful .changeStream id⟩

/-- Whether a call after a history has to fetch: the event of the seed has been handed out, if there
is one, and the subscription is not over. -/
def Awaits (codec : Codec) (seed : StreamSeed) (before : List Record) : Prop :=
  (before = [] → seed.event = none) ∧ ¬ Over codec seed before

/-- A call as it has to be after a history. -/
structure Due (connection : Connection) (serial : Nat) (seed : StreamSeed) (before : List Record)
    (r : Record) : Prop where
  /-- The event of the seed comes first, and nothing is asked for it. -/
  first : ∀ event, before = [] → seed.event = some event →
    r.exchanges = [] ∧ r.result = .ok (some event)
  /-- After the end there is nothing to give, and nothing is asked for. -/
  quiet : Over connection.codec seed before → (before = [] → seed.event = none) →
    r.exchanges = [] ∧ r.result = .ok none
  /-- Before the end a closed client refuses, and nothing is asked for. -/
  refused : Awaits connection.codec seed before → r.found.isClosed connection.client = true →
    r.exchanges = [] ∧ r.result = .error (.failed (Connection.closedError "try_next"))
  /-- Before the end and on an open client something is fetched.  The last fetch decides the result:
  it is the event of the step that came back, if that has one, or the failure that came back; and
  where nothing came back in time the call took too long or was given up.  Waiting for an event goes
  on after the other fetches and not after the last one; else there is only the last one. -/
  fetches : Awaits connection.codec seed before → r.found.isClosed connection.client = false →
    ∃ idle e, r.exchanges = idle ++ [e]
      ∧ Fetches connection serial r.limits r.found r.use idle e r.result
  /-- A failure comes out of the call in which it came back. -/
  surfaced : ∀ e err, e ∈ r.exchanges → e.failure? connection.codec = some err →
    r.result = .error (.failed err)
  /-- A failure that comes out came back in the call, unless the call took too long or the client
  has been closed. -/
  caused : ∀ err, r.result = .error (.failed err) → err.kind = .timeout
    ∨ (err = Connection.closedError "try_next" ∧ r.found.isClosed connection.client = true)
    ∨ ∃ e ∈ r.exchanges, e.failure? connection.codec = some err
  /-- Waiting for an event never takes too long. -/
  patient : ∀ err, r.use = .nextEvent → r.result = .error (.failed err) → err.kind ≠ .timeout
  /-- Waiting for an event comes to nothing only after the end. -/
  lasting : r.use = .nextEvent → r.result = .ok none → Over connection.codec seed (before ++ [r])
  /-- A call is given up only when its caller stops waiting. -/
  givenUp : r.result = .error .abandoned →
    r.limits.deadline ≤ timeAfter connection serial r.limits r.found r.exchanges

section reading

variable (codec : Codec) (first : Option String) (es es' : List Exchange) (h h' : List Record)

/-- What two histories handed out stands in order. -/
@[simp] theorem delivered_append : delivered (h ++ h') = delivered h ++ delivered h' := by
  simp [delivered]

/-- The events that came with two rows of exchanges stand in order. -/
@[simp] theorem events_append : events codec (es ++ es') = events codec es ++ events codec es' := by
  simp [events]

/-- An exchange brings the event in its answer, if one can be read from it. -/
theorem events_singleton (e : Exchange) :
    events codec [e] = ((e.step? codec).bind (·.event)).toList := by
  simp [events]

/-- A step without a token leaves the latest token as it is. -/
theorem latestId_snoc (e : Exchange) :
    latestId codec first (es ++ [e])
      = ((e.step? codec).bind (·.streamId)).or (latestId codec first es) := by
  cases he : (e.step? codec).bind (·.streamId) <;> simp [latestId, he]

/-- A subscription that has begun with a token keeps having one. -/
theorem latestId_eq_none {codec : Codec} {first : Option String} {es : List Exchange}
    (none : latestId codec first es = none) : first = .none :=
  (Option.or_eq_none_iff.mp none).2

/-- What ends a subscription once has ended it for good. -/
theorem finished_append (seed : StreamSeed) (broken broken' : Prop) :
    Finished codec seed (es ++ es') (broken ∨ broken')
      ↔ Finished codec seed es broken ∨ (∃ e ∈ es', e.EndsStream codec) ∨ broken' := by
  unfold Finished
  simp only [List.mem_append]
  constructor
  · rintro (h | ⟨e, he | he, ends⟩ | h | h)
    · exact .inl (.inl h)
    · exact .inl (.inr (.inl ⟨e, he, ends⟩))
    · exact .inr (.inl ⟨e, he, ends⟩)
    · exact .inl (.inr (.inr h))
    · exact .inr (.inr h)
  · rintro ((h | ⟨e, he, ends⟩ | h) | ⟨e, he, ends⟩ | h)
    · exact .inl h
    · exact .inr (.inl ⟨e, .inl he, ends⟩)
    · exact .inr (.inr (.inl h))
    · exact .inr (.inl ⟨e, .inr he, ends⟩)
    · exact .inr (.inr (.inr h))

end reading

/-! ## The invariant -/

/-- Each fetch is one that had to be made after the exchanges before it. -/
def Orderly (connection : Connection) (origin : Route) (seed : StreamSeed)
    (es : List Exchange) : Prop :=
  ∀ before e, before ++ [e] <+: es → AsksOn connection origin seed before e.request

/-- A row of exchanges goes on by one that asks for what is next. -/
theorem orderly_snoc {connection : Connection} {origin : Route} {seed : StreamSeed}
    {es : List Exchange} {e : Exchange} (asks : AsksOn connection origin seed es e.request)
    (orderly : Orderly connection origin seed es) :
    Orderly connection origin seed (es ++ [e]) := by
  intro before e' p
  rcases List.prefix_concat_iff.mp p with same | p
  · obtain ⟨rfl, last⟩ := List.append_inj' same rfl
    cases last
    exact asks
  · exact orderly before e' p

/-- How a change stream that was opened with `seed` stands to the exchanges it had and the events it
handed out.  It may have broken down on the spot, without an exchange. -/
structure Account (connection : Connection) (origin : Route) (serial : Nat) (seed : StreamSeed)
    (es : List Exchange) (ds : List Document) (broken : Prop) (s : ChangeStream) : Prop where
  /-- It keeps its connection. -/
  connection_eq : s.connection = connection
  /-- It keeps the route of the object that opened it. -/
  origin_eq : s.origin = origin
  /-- It keeps its number. -/
  serial_eq : s.serial = serial
  /-- It keeps the bound of its connection on a fetch. -/
  timeout_eq : s.timeout = connection.streamTimeout
  /-- No event is lost, repeated or reordered. -/
  delivered : ds ++ s.pending.toList = seed.event.toList ++ events connection.codec es
  /-- It is closed exactly if its subscription is over. -/
  closed_iff : s.state = .closed ↔ Finished connection.codec seed es broken
  /-- As long as it is open, it holds the latest token. -/
  held : s.state ≠ .closed → s.streamId = latestId connection.codec seed.streamId es
  /-- Its fetches were those that had to be made. -/
  orderly : Orderly connection origin seed es

/-- A change stream that has just been opened has done nothing. -/
theorem account_ofSeed (connection : Connection) (origin : Route) (serial : Nat)
    (seed : StreamSeed) :
    Account connection origin serial seed [] [] False (ofSeed connection origin serial seed) where
  connection_eq := rfl
  origin_eq := rfl
  serial_eq := rfl
  timeout_eq := rfl
  delivered := by simp [events, ofSeed]
  closed_iff := by
    cases ha : seed.alive <;> cases hi : seed.streamId <;> simp [ofSeed, Finished, ha, hi]
  held _ := rfl
  orderly := by simp [Orderly]

section account

variable {connection : Connection} {origin : Route} {serial : Nat} {seed : StreamSeed}
  {es : List Exchange} {ds : List Document} {broken : Prop} {s : ChangeStream}

/-- An open change stream holds a token. -/
theorem Account.streamId_ne_none (account : Account connection origin serial seed es ds broken s)
    (isOpen : s.state ≠ .closed) : s.streamId ≠ none := by
  intro none
  have gone := latestId_eq_none ((account.held isOpen).symm.trans none)
  exact isOpen (account.closed_iff.mpr (.inl (.inr gone)))

/-- The fetch of an open change stream is the one that has to be made. -/
theorem Account.asksOn
    (account : Account connection origin serial seed es ds broken s) {id : String}
    {w : World} {e : Exchange} (isOpen : s.state ≠ .closed) (held : s.streamId = some id)
    (carries :
      s.connection.Carries (.bare "try_next") (s.origin.stateful .changeStream id) w e) :
    AsksOn connection origin seed es e.request := by
  refine ⟨fun ended => isOpen (account.closed_iff.mpr ?_), id, ?_, ?_⟩
  · rcases ended with h | h | h
    · exact .inl h
    · exact .inr (.inl h)
    · exact h.elim
  · rw [← account.held isOpen, held]
  · rw [carries.bare, account.connection_eq, account.origin_eq]

/-- Handing out the pending event. -/
theorem Account.hand
    (account : Account connection origin serial seed es ds broken s) {event : Document}
    (held : s.pending = some event) :
    Account connection origin serial seed es (ds ++ [event]) broken { s with pending := none } where
  connection_eq := account.connection_eq
  origin_eq := account.origin_eq
  serial_eq := account.serial_eq
  timeout_eq := account.timeout_eq
  delivered := by
    have delivered := account.delivered
    rw [held] at delivered
    simpa using delivered
  closed_iff := account.closed_iff
  held := account.held
  orderly := account.orderly

/-- Breaking down on the spot. -/
theorem Account.breakDown (account : Account connection origin serial seed es ds broken s) :
    Account connection origin serial seed es ds (broken ∨ True)
      { s with state := .closed, streamId := none } where
  connection_eq := account.connection_eq
  origin_eq := account.origin_eq
  serial_eq := account.serial_eq
  timeout_eq := account.timeout_eq
  delivered := account.delivered
  closed_iff := iff_of_true rfl (.inr (.inr (.inr trivial)))
  held isOpen := absurd rfl isOpen
  orderly := account.orderly

/-- An exchange that brought nothing leaves an open stream open. -/
theorem Account.wait (account : Account connection origin serial seed es ds broken s) {e : Exchange}
    (isOpen : s.state ≠ .closed) (asks : AsksOn connection origin seed es e.request)
    (nothing : e.subscription? connection.codec = none) {state : StreamState}
    (waits : state ≠ .closed) :
    Account connection origin serial seed (es ++ [e]) ds (broken ∨ False)
      { s with state := state } where
  connection_eq := account.connection_eq
  origin_eq := account.origin_eq
  serial_eq := account.serial_eq
  timeout_eq := account.timeout_eq
  delivered := by
    rw [events_append, events_singleton, Exchange.step?, nothing]
    simpa using account.delivered
  closed_iff := by
    apply iff_of_false waits
    rw [finished_append]
    rintro (ended | ⟨e', he, r, hr, _⟩ | no)
    · exact isOpen (account.closed_iff.mpr ended)
    · rw [List.mem_singleton.mp he, nothing] at hr
      cases hr
    · exact no
  held _ := by
    rw [latestId_snoc, Exchange.step?, nothing]
    exact account.held isOpen
  orderly := orderly_snoc asks account.orderly

/-- An exchange that brought a failure ends the stream. -/
theorem Account.fail (account : Account connection origin serial seed es ds broken s) {e : Exchange}
    {err : Error} (asks : AsksOn connection origin seed es e.request)
    (failed : e.subscription? connection.codec = some (.error err)) (broken' : Prop) :
    Account connection origin serial seed (es ++ [e]) ds (broken ∨ broken')
      { s with state := .closed, streamId := none } where
  connection_eq := account.connection_eq
  origin_eq := account.origin_eq
  serial_eq := account.serial_eq
  timeout_eq := account.timeout_eq
  delivered := by
    rw [events_append, events_singleton, Exchange.step?, failed]
    simpa [Except.toOption] using account.delivered
  closed_iff := by
    apply iff_of_true rfl
    rw [finished_append]
    refine .inr (.inl ⟨e, List.mem_singleton.mpr rfl, _, failed, ?_⟩)
    intro step no
    cases no
  held isOpen := absurd rfl isOpen
  orderly := orderly_snoc asks account.orderly

/-- A step hands out its event, and its token is the latest one. -/
theorem Account.continue
    (account : Account connection origin serial seed es ds broken s) {e : Exchange}
    {step : StreamSeed} (none : s.pending = .none) (isOpen : s.state ≠ .closed)
    (asks : AsksOn connection origin seed es e.request)
    (came : e.subscription? connection.codec = some (.ok step)) :
    Account connection origin serial seed (es ++ [e]) (ds ++ step.event.toList) (broken ∨ False)
      (s.continued step) where
  connection_eq := account.connection_eq
  origin_eq := account.origin_eq
  serial_eq := account.serial_eq
  timeout_eq := account.timeout_eq
  delivered := by
    have delivered := account.delivered
    have still : (s.continued step).pending = .none := none
    rw [none] at delivered
    rw [events_append, events_singleton, Exchange.step?, came, still]
    simpa [Except.toOption, ← List.append_assoc] using delivered
  closed_iff := by
    have last := Exchange.endsStream_iff_of_ok came
    rw [finished_append, ← account.closed_iff]
    cases ha : step.alive with
    | true => simp [continued, ha, isOpen, last]
    | false => simp [continued, ha, last]
  held still := by
    have alive : step.alive = true := by
      cases ha : step.alive with
      | true => rfl
      | false => exact absurd (by simp [continued, ha]) still
    rw [latestId_snoc, Exchange.step?, came, ← account.held isOpen]
    simp [continued, alive, Except.toOption]
  orderly := orderly_snoc asks account.orderly

end account

/-! ## One call -/

/-- What a call that comes to `r` adds to the account of a change stream. -/
structure Serves (connection : Connection) (origin : Route) (serial : Nat) (seed : StreamSeed)
    (es : List Exchange) (ds : List Document) (broken : Prop) (s : ChangeStream) (limits : Limits)
    (w : World) (use : Use) (added : List Exchange)
    (r : Except Halt (Option Document) × ChangeStream × World) : Prop where
  /-- Its exchanges are all that happens to the world. -/
  sends : Sends (some serial) (waitsUntil connection limits) w added r.2.2
  /-- They are those that the call has to have, and it comes to what it has to come to. -/
  conduct : Conduct connection serial s limits w use added r.1
  /-- The account goes on with them and with the event that is handed out. -/
  account : Account connection origin serial seed (es ++ added) (ds ++ handed r.1)
    (broken ∨ Failing r.1) r.2.1
  /-- No event is pending any more. -/
  taken : r.2.1.pending = none

section calls

variable {connection : Connection} {origin : Route} {serial : Nat} {seed : StreamSeed}
  {es : List Exchange} {ds : List Document} {broken : Prop} {s s' : ChangeStream}
  {limits : Limits} {w w' : World} {added : List Exchange} {q : Except Halt (Option Document)}

/-- A result that is no failure breaks nothing. -/
theorem Account.unbroken (account : Account connection origin serial seed es ds broken s)
    {no : Prop} (h : ¬ no) : Account connection origin serial seed es ds (broken ∨ no) s := by
  have same : (broken ∨ no) = broken := propext (or_iff_left h)
  rw [same]
  exact account

/-- An event, or none, is no failure. -/
theorem not_failing_ok (event : Option Document) : ¬ Failing (.ok event) := by
  rintro ⟨err, h, _⟩
  cases h

/-- A fetch of the stream is waited for as long as its connection has it. -/
theorem Account.patience_eq (account : Account connection origin serial seed es ds broken s) :
    s.patience limits = waitsUntil connection limits := by
  funext now
  rw [patience, waitsUntil, account.timeout_eq]

/-- A fetch comes to what a call comes to that makes no other. -/
theorem Account.comesTo_eq (account : Account connection origin serial seed es ds broken s)
    (e : Exchange) :
    (s.fetched limits w e).map (·.event) = comesTo connection serial limits w [] e := by
  unfold fetched comesTo late
  rw [account.connection_eq, account.timeout_eq, timeAfter_nil]
  rcases e.subscription? connection.codec with _ | (err | step)
  · dsimp only
    split <;> rfl
  · rfl
  · rfl

/-- What a fetch comes to, by what came back. -/
theorem Account.sent (account : Account connection origin serial seed es ds broken s)
    {e : Exchange} (none : s.pending = none) (isOpen : s.state ≠ .closed)
    (asks : AsksOn connection origin seed es e.request) (limits : Limits) (w : World) :
    Account connection origin serial seed (es ++ [e])
      (ds ++ handed ((s.fetched limits w e).map (·.event)))
      (broken ∨ Failing ((s.fetched limits w e).map (·.event))) (s.told limits w e) := by
  have codec : s.connection.codec = connection.codec := by rw [account.connection_eq]
  unfold fetched told
  rw [codec]
  rcases hs : e.subscription? connection.codec with _ | (err | step)
  · dsimp only [Except.map, handed]
    rw [List.append_nil]
    have calm : ¬ Failing (.error (s.late limits w)) := by
      rintro ⟨err, h, hk⟩
      rcases s.late_eq limits w with late | late <;> rw [late] at h <;> cases h
      exact hk rfl
    have waits : waiting (s.late limits w) ≠ .closed := by
      unfold waiting
      split <;> decide
    rw [propext (iff_false_intro calm)]
    exact account.wait isOpen asks hs waits
  · dsimp only [Except.map, handed]
    rw [List.append_nil]
    exact account.fail asks hs _
  · dsimp only [Except.map, handed]
    rw [propext (iff_false_intro (not_failing_ok _))]
    exact account.continue none isOpen asks hs

/-- Nothing is pending after a fetch where nothing was. -/
theorem pending_told (s : ChangeStream) (limits : Limits) (w : World) (e : Exchange) :
    (s.told limits w e).pending = s.pending := by
  unfold told
  split <;> rfl

/-- Fetching keeps the account. -/
theorem Account.tryNext (account : Account connection origin serial seed es ds broken s)
    (undisturbed : Undisturbed serial limits w) :
    ∃ added, Serves connection origin serial seed es ds broken s limits w .tryNext added
      (s.tryNext limits w) := by
  rw [← account.serial_eq] at undisturbed
  cases s.tried limits w undisturbed with
  | pending event held result =>
    rw [result]
    refine ⟨[], .nil _ _ _, .pending event held, ?_, rfl⟩
    rw [List.append_nil]
    exact (account.hand held).unbroken (not_failing_ok _)
  | ended none atEnd result =>
    rw [result]
    refine ⟨[], .nil _ _ _, .ended none atEnd, ?_, none⟩
    rw [List.append_nil, handed, Option.toList_none, List.append_nil]
    exact account.unbroken (not_failing_ok _)
  | idless none isOpen held result => exact absurd held (account.streamId_ne_none isOpen)
  | refused id err none isOpen held refuses result =>
    rw [result]
    rcases refuses with ⟨closed, rfl⟩ | ⟨_, cannot⟩
    · rw [account.connection_eq] at closed
      refine ⟨[], .nil _ _ _, .refused none isOpen closed, ?_, none⟩
      have fails : Failing (.error (.failed (Connection.closedError "try_next"))) :=
        ⟨_, rfl, by decide⟩
      rw [List.append_nil, handed, List.append_nil]
      exact (propext (iff_true_intro fails)) ▸ account.breakDown
    · cases cannot
  | sent id e w' none isOpen held carries sends result =>
    rw [result, account.comesTo_eq]
    have serves := carries.isOpen
    rw [account.connection_eq] at serves
    rw [account.serial_eq, account.patience_eq] at sends
    have sent := account.sent none isOpen (account.asksOn isOpen held carries) limits w
    rw [account.comesTo_eq] at sent
    exact ⟨[e], sends, .fetched none isOpen serves [] e _ (fetches_tryNext e), sent,
      (s.pending_told limits w e).trans none⟩

/-- A call leaves a stream closed just if it was closed, or its subscription has ended meanwhile. -/
theorem Serves.closed_iff {r : Except Halt (Option Document) × ChangeStream × World} {use : Use}
    (account : Account connection origin serial seed es ds broken s)
    (serves : Serves connection origin serial seed es ds broken s limits w use added r) :
    r.2.1.state = .closed ↔ s.state = .closed
      ∨ (∃ e ∈ added, e.EndsStream connection.codec) ∨ Failing r.1 := by
  rw [serves.account.closed_iff, finished_append, ← account.closed_iff]

/-- Waiting for an event goes on after a fetch just where it does by what came back. -/
theorem Serves.goesOn_iff (account : Account connection origin serial seed es ds broken s)
    (serves : Serves connection origin serial seed es ds broken s limits w .tryNext added
      (q, s', w')) :
    GoesOn q s' ↔ ∃ e, added = [e] ∧ Idle connection serial limits w [] e := by
  have closed_iff := serves.closed_iff account
  have conduct := serves.conduct
  dsimp only at closed_iff conduct
  clear serves
  -- waiting can go on only after a fetch; in the other cases both sides are false
  cases conduct with
  | pending event held =>
    constructor
    · rintro (⟨same, _⟩ | ⟨_, same, _⟩) <;> cases same
    · rintro ⟨_, same, _⟩
      cases same
  | ended none atEnd =>
    constructor
    · rintro (⟨_, live⟩ | ⟨_, same, _⟩)
      · exact absurd (closed_iff.mpr (.inl atEnd)) live
      · cases same
    · rintro ⟨_, same, _⟩
      cases same
  | refused none isOpen closed =>
    constructor
    · rintro (⟨same, _⟩ | ⟨_, same, late⟩)
      · cases same
      · cases same
        cases late
    · rintro ⟨_, same, _⟩
      cases same
  | fetched none isOpen serves idle e _ fetches =>
    cases fetches.once rfl
    have came := fetches.result_eq
    rw [List.nil_append] at closed_iff ⊢
    constructor
    · rintro (⟨nothing, live⟩ | ⟨err, fails, late⟩)
      · refine ⟨e, rfl, .inr ⟨came.symm.trans nothing, fun ends => live ?_⟩⟩
        exact closed_iff.mpr (.inr (.inl ⟨e, List.mem_singleton.mpr rfl, ends⟩))
      · obtain ⟨_, rfl⟩ := comesTo_eq_late (came.symm.trans fails) late
        exact ⟨e, rfl, .inl (came.symm.trans fails)⟩
    · rintro ⟨e', same, late | ⟨nothing, live⟩⟩
      · cases same
        exact .inr ⟨_, came.trans late, rfl⟩
      · cases same
        refine .inl ⟨came.trans nothing, fun closed => ?_⟩
        rcases closed_iff.mp closed with atEnd | ⟨e', member, ends⟩ | fails
        · exact isOpen atEnd
        · cases List.mem_singleton.mp member
          exact live ends
        · exact not_failing_ok _ (came.trans nothing ▸ fails)

/-- A fetch after which waiting for an event does not go on is all that the call does. -/
theorem Serves.stop (account : Account connection origin serial seed es ds broken s)
    (serves : Serves connection origin serial seed es ds broken s limits w .tryNext added
      (q, s', w')) (stops : ¬ GoesOn q s') :
    Serves connection origin serial seed es ds broken s limits w .nextEvent added (q, s', w') where
  sends := serves.sends
  conduct := serves.conduct.stop fun e one idle =>
    stops ((serves.goesOn_iff account).mpr ⟨e, one, idle⟩)
  account := serves.account
  taken := serves.taken

/-- A fetch after which waiting for an event goes on is as if the wait began after it. -/
theorem Serves.andThen {more : List Exchange}
    {r : Except Halt (Option Document) × ChangeStream × World}
    (account : Account connection origin serial seed es ds broken s)
    (first : Serves connection origin serial seed es ds broken s limits w .tryNext added
      (q, s', w')) (again : GoesOn q s')
    (rest : Serves connection origin serial seed (es ++ added) (ds ++ handed q)
      (broken ∨ Failing q) s' limits w' .nextEvent more r) :
    Serves connection origin serial seed es ds broken s limits w .nextEvent (added ++ more) r := by
  obtain ⟨e, rfl, idle⟩ := (first.goesOn_iff account).mp again
  -- a fetch after which waiting goes on is no failure and hands out nothing
  have calm : ¬ Failing q := by
    rintro ⟨err, fails, prompt⟩
    rcases again with ⟨nothing, _⟩ | ⟨_, late, timely⟩
    · cases fails.symm.trans nothing
    · cases fails.symm.trans late
      exact prompt timely
  have nothing : handed q = [] := by
    rcases again with ⟨rfl, _⟩ | ⟨_, rfl, _⟩ <;> rfl
  have after := rest.account
  rw [nothing, List.append_nil, List.append_assoc, propext (iff_false_intro calm),
    or_false] at after
  refine ⟨first.sends.trans rest.sends, ?_, after, rest.taken⟩
  obtain ⟨none, isOpen, serves⟩ := first.conduct.fetches_of_mem (List.mem_singleton.mpr rfl)
  have live : s'.state ≠ .closed := by
    intro closed
    rcases (first.closed_iff account).mp closed with atEnd | ⟨e', member, ends⟩ | fails
    · exact isOpen atEnd
    · cases List.mem_singleton.mp member
      exact idle.not_endsStream ends
    · exact calm fails
  exact .cons none isOpen serves first.sends idle first.taken live rest.conduct

/-- Waiting for an event keeps the account. -/
theorem Account.nextEvent (account : Account connection origin serial seed es ds broken s)
    (undisturbed : Undisturbed serial limits w) :
    ∃ added, Serves connection origin serial seed es ds broken s limits w .nextEvent added
      (s.nextEvent limits w) := by
  -- each round adds an exchange to the account, so the induction is about any account
  refine nextEvent_induction (motive := fun s w r => ∀ es ds broken,
    Account connection origin serial seed es ds broken s → Undisturbed serial limits w →
      ∃ added, Serves connection origin serial seed es ds broken s limits w .nextEvent added r)
    (fun fetched stops es ds broken account undisturbed => ?_)
    (fun fetched again rest es ds broken account undisturbed => ?_) s w es ds broken account
    undisturbed
  · obtain ⟨added, serves⟩ := account.tryNext undisturbed
    rw [fetched] at serves
    exact ⟨added, serves.stop account stops⟩
  · obtain ⟨added, first⟩ := account.tryNext undisturbed
    rw [fetched] at first
    obtain ⟨more, later⟩ := rest _ _ _ first.account (undisturbed.sends first.sends)
    exact ⟨added ++ more, first.andThen account again later⟩

/-- Any use keeps the account. -/
theorem Account.serve (account : Account connection origin serial seed es ds broken s)
    (undisturbed : Undisturbed serial limits w) (use : Use) :
    ∃ added, Serves connection origin serial seed es ds broken s limits w use added
      (use.serve s limits w) := by
  cases use with
  | tryNext => exact account.tryNext undisturbed
  | nextEvent => exact account.nextEvent undisturbed

end calls

/-- A closed stream without a pending event has nothing to give and stays as it is. -/
theorem serve_closed {s : ChangeStream} {limits : Limits} {w : World} (none : s.pending = none)
    (atEnd : s.state = .closed) (u : Use) : u.serve s limits w = (.ok .none, s, w) := by
  have once := tryNext_ended none atEnd limits w
  cases u with
  | tryNext => exact once
  | nextEvent =>
    rw [Use.serve, nextEvent]
    split <;> simp_all

/-! ## Runs -/

/-- How a change stream that was opened with `seed` stands to the records of the calls that it has
answered. -/
structure History (connection : Connection) (origin : Route) (serial : Nat) (seed : StreamSeed)
    (h : List Record) (s : ChangeStream) : Prop where
  /-- The account of all exchanges and all events handed out. -/
  account : Account connection origin serial seed (exchanges h) (delivered h)
    (∃ r ∈ h, Failing r.result) s
  /-- The event of the seed is pending until the first call. -/
  fresh : h = [] → s.pending = seed.event
  /-- From the first call on no event is pending. -/
  taken : h ≠ [] → s.pending = none
  /-- Each call was as it had to be. -/
  due : ∀ before r, before ++ [r] <+: h → Due connection serial seed before r

section runs

variable {connection : Connection} {origin : Route} {serial : Nat} {seed : StreamSeed}
  {h : List Record} {s : ChangeStream}

/-- A change stream that has just been opened has answered nothing. -/
theorem history_ofSeed (connection : Connection) (origin : Route) (serial : Nat)
    (seed : StreamSeed) :
    History connection origin serial seed [] (ofSeed connection origin serial seed) where
  account := by
    simpa [exchanges, delivered] using account_ofSeed connection origin serial seed
  fresh _ := rfl
  taken no := absurd rfl no
  due := by simp

/-- The exchanges of one more record come after the others. -/
theorem exchanges_snoc (h : List Record) (r : Record) :
    exchanges (h ++ [r]) = exchanges h ++ r.exchanges := by
  simp [exchanges]

/-- One more record breaks a stream just if it fails. -/
theorem exists_failing_snoc (h : List Record) (r : Record) :
    (∃ r' ∈ h ++ [r], Failing r'.result) ↔ (∃ r ∈ h, Failing r.result) ∨ Failing r.result := by
  simp [or_and_right, exists_or]

/-- The account after one more record. -/
theorem account_snoc {r : Record} {s' : ChangeStream}
    (account : Account connection origin serial seed (exchanges h ++ r.exchanges)
      (delivered h ++ handed r.result) ((∃ r ∈ h, Failing r.result) ∨ Failing r.result) s') :
    Account connection origin serial seed (exchanges (h ++ [r])) (delivered (h ++ [r]))
      (∃ r' ∈ h ++ [r], Failing r'.result) s' := by
  have one : delivered [r] = handed r.result := by simp [delivered]
  rw [exchanges_snoc, delivered_append, one, propext (exists_failing_snoc h r)]
  exact account

/-- No event is pending where the event of the seed has been handed out. -/
theorem History.pending_eq_none (history : History connection origin serial seed h s)
    (spent : h = [] → seed.event = none) : s.pending = none := by
  cases h with
  | nil => exact (history.fresh rfl).trans (spent rfl)
  | cons r rest => exact history.taken (by simp)

/-- A call whose conduct is as it has to be is due. -/
theorem History.due_of_conduct (history : History connection origin serial seed h s) {r : Record}
    {w' : World} (conduct : Conduct connection serial s r.limits r.found r.use r.exchanges r.result)
    (sends : Sends (some serial) (waitsUntil connection r.limits) r.found r.exchanges w') :
    Due connection serial seed h r where
  first event begins held := conduct.of_pending ((history.fresh begins).trans held)
  quiet finished spent :=
    conduct.of_ended (history.pending_eq_none spent) (history.account.closed_iff.mpr finished)
  refused awaits closed := conduct.of_refused (history.pending_eq_none awaits.1)
    (mt history.account.closed_iff.mp awaits.2) closed
  fetches awaits serves := conduct.of_open (history.pending_eq_none awaits.1)
    (mt history.account.closed_iff.mp awaits.2) serves
  surfaced e err member failed := conduct.surfaced member failed
  caused err fails := conduct.caused fails
  patient err waits fails := by
    rw [waits] at conduct
    exact conduct.patient fails
  lasting waits none := by
    rw [waits] at conduct
    unfold Over
    rw [exchanges_snoc, propext (exists_failing_snoc h r), finished_append]
    rcases conduct.lasting none with atEnd | ends
    · exact .inl (history.account.closed_iff.mp atEnd)
    · exact .inr (.inl ends)
  givenUp given := conduct.givenUp sends given

/-- A visit keeps the history. -/
theorem History.visit (history : History connection origin serial seed h s) (v : Visit serial) :
    History connection origin serial seed (h ++ [v.record s]) (v.outcome s).2.1 := by
  obtain ⟨added, serves⟩ := history.account.serve v.undisturbed v.use
  have told : (v.record s).exchanges = added := by
    unfold Visit.record
    rw [history.account.serial_eq, history.account.patience_eq]
    exact serves.sends.exchanges_eq
  subst told
  refine ⟨account_snoc serves.account, by simp, fun _ => serves.taken, fun before r first => ?_⟩
  rcases List.prefix_concat_iff.mp first with same | first
  · obtain ⟨rfl, last⟩ := List.append_inj' same rfl
    cases last
    exact history.due_of_conduct serves.conduct serves.sends
  · exact history.due before r first

/-- What every visit keeps, a run keeps. -/
theorem History.run (history : History connection origin serial seed h s)
    (visits : List (Visit serial)) :
    History connection origin serial seed (h ++ (s.run visits).1) (s.run visits).2 := by
  induction visits generalizing h s with
  | nil => simpa [ChangeStream.run] using history
  | cons v rest ih => simpa [ChangeStream.run] using ih (history.visit v)

end runs

/-! ## The delivery of events -/

/-- As long as nobody closes a change stream on this side, and in whatever worlds it is asked for
events: from the first call on the events handed out are that of its seed and those of all steps
that have come back, in order; every fetch is one that had to be made after the exchanges before
it; and every call is as it has to be after the calls before it, so that on an open client it
fetches as long as the subscription is not over, and comes to what came back. -/
theorem run_delivers_events (connection : Connection) (origin : Route) (serial : Nat)
    (seed : StreamSeed) (visits : List (Visit serial)) :
    let h := ((ofSeed connection origin serial seed).run visits).1
    (h ≠ [] →
        delivered h = seed.event.toList ++ events connection.codec (exchanges h))
      ∧ (∀ before e, before ++ [e] <+: exchanges h →
          AsksOn connection origin seed before e.request)
      ∧ ∀ before r, before ++ [r] <+: h → Due connection serial seed before r := by
  have history := (history_ofSeed connection origin serial seed).run visits
  rw [List.nil_append] at history
  refine ⟨fun begun => ?_, history.account.orderly, history.due⟩
  have delivered := history.account.delivered
  rw [history.taken begun, Option.toList_none, List.append_nil] at delivered
  exact delivered

/-- A fetch that runs out of time is repeated for whoever waits for an event. -/
example :
    let endpoint : Endpoint := ⟨⟨[], none, .bare [], none, none⟩, []⟩
    let connection : Connection := ⟨0, endpoint, .relaxed, 5⟩
    let step : Json := .object [("kind", .string "stream"), ("payload", .object
      [("event", .object [("n", .boolean true)])])]
    let w := World.start (.ofScript [("try_next", ⟨none, 0⟩), ("try_next", ⟨some (.body step), 0⟩)])
    let waits : Visit 0 := ⟨.nextEvent, ⟨10, none⟩, w, ⟨rfl, nofun⟩⟩
    let h := ((ofSeed connection .client 0 ⟨some "s", none, none, true⟩).run [waits]).1
    (exchanges h).length = 2 ∧ (delivered h).length = 1 := by
  decide +kernel

end ChangeStream

end RemoteDriver
