import RemoteDriver.Proofs.ChangeStream.Calls
import RemoteDriver.Proofs.ChangeStream.Delivery

/-!
# The life of a change stream

A change stream from the reply that opened it on, whatever is asked of it, closing included, and in
whatever worlds: its close signal may fire, and the client be closed, between any two calls and
while a fetch is under way.

The main statement is `stream_life_cycle`: as long as no call was given up, the stream waits for its
next fetch or is closed; nothing is fetched once the close signal has fired, and nothing is sent at
all once the stream has been closed; and the remote side is told of the closing at most once, with
the token that an interrupted fetch leaves in place.  The invariant behind it is `Ledger`.
-/

namespace RemoteDriver

open Bson (Document Value)

namespace ChangeStream

open World (Sends)

/-! ## What a fetch keeps -/

/-- A state goes with what the stream holds. -/
structure Fit (s : ChangeStream) : Prop where
  /-- No request is under way. -/
  settled : s.state ≠ .fetching
  /-- A stream that waits for its next fetch holds a token. -/
  held : s.state = .subscribed → s.streamId.isSome = true

/-- A closed stream may hold anything. -/
theorem Fit.of_closed {s : ChangeStream} (closed : s.state = .closed) : s.Fit := by
  constructor <;> rw [closed] <;> simp

/-- A stream that has just been opened holds a token, or is closed. -/
theorem fit_ofSeed (connection : Connection) (origin : Route) (serial : Nat) (seed : StreamSeed) :
    (ofSeed connection origin serial seed).Fit := by
  unfold ofSeed
  rcases live : seed.alive && seed.streamId.isSome with _ | _
  · exact .of_closed rfl
  · refine ⟨by simp, fun _ => ?_⟩
    exact (Bool.and_eq_true_iff.mp live).2

/-- A fetch needs a token. -/
theorem Asked.held {s : ChangeStream} {limits : Limits} {w w' : World} {e : Exchange}
    (asked : s.Asked limits w e w') : s.streamId.isSome = true := by
  obtain ⟨id, held, _⟩ := asked.request
  rw [held]
  rfl

section attempted

variable {s s' : ChangeStream} {limits : Limits} {w w' : World} {es : List Exchange}
  {r : Except Halt (Option Document)}

/-- A stream that fits is left so, unless a fetch is given up. -/
theorem Attempted.fit (h : Attempted s limits w es r s' w') (completed : r ≠ .error .abandoned)
    (fit : s.Fit) : s'.Fit := by
  cases h with
  | pending => exact ⟨fit.settled, fit.held⟩
  | ended => exact fit
  | signalled | idless | refused | failed | interrupted => exact .of_closed rfl
  | late asked => exact ⟨by simp, fun _ => asked.held⟩
  | abandoned => exact absurd rfl completed
  | answered seed asked =>
    unfold continued
    rcases seed.alive with _ | _
    · exact .of_closed rfl
    · refine ⟨by simp, fun _ => ?_⟩
      have held := asked.held
      dsimp only
      cases seed.streamId <;> simp [held]

/-- A token is held after a fetch only if one was held before it. -/
theorem Attempted.streamId (h : Attempted s limits w es r s' w') (held : s'.streamId ≠ none) :
    s.streamId ≠ none := by
  cases h with
  | pending | ended | signalled | idless => exact held
  | refused | failed => exact absurd rfl held
  | answered _ asked | interrupted asked | late asked | abandoned asked =>
    exact Option.isSome_iff_ne_none.mp asked.held

/-- A closed stream hands out what is pending, and nothing more. -/
theorem Attempted.closed (h : Attempted s limits w es r s' w') (closed : s.state = .closed) :
    es = [] ∧ s'.state = .closed ∧ s'.streamId = s.streamId
      ∧ (s.pending = none → r = .ok none ∧ s' = s) := by
  cases h with
  | pending event held =>
    refine ⟨rfl, closed, rfl, fun none => ?_⟩
    rw [held] at none
    cases none
  | ended => exact ⟨rfl, closed, rfl, fun _ => ⟨rfl, rfl⟩⟩
  | signalled _ isOpen | idless _ isOpen | refused _ _ isOpen => exact absurd closed isOpen
  | answered _ asked | failed _ asked | interrupted asked | late asked | abandoned asked =>
    exact absurd closed asked.isOpen

/-- Where no event is pending, nothing is fetched any more once the close signal has fired. -/
theorem Attempted.stopped (h : Attempted s limits w es r s' w') (none : s.pending = none)
    (fired : w.hasFired s.serial = true) :
    es = [] ∧ r = .ok .none ∧ s' = { s with state := .closed } := by
  cases h with
  | pending event held =>
    rw [none] at held
    cases held
  | ended _ atEnd =>
    refine ⟨rfl, rfl, ?_⟩
    rw [← atEnd]
  | signalled | idless => exact ⟨rfl, rfl, rfl⟩
  | refused _ _ _ unfired => exact absurd (fired.symm.trans unfired) (by decide)
  | answered _ asked | failed _ asked | interrupted asked | late asked | abandoned asked =>
    exact absurd (fired.symm.trans asked.unfired) (by decide)

/-- An interrupted fetch comes to nothing and leaves the stream closed, with its token. -/
theorem Attempted.interrupts {e : Exchange} (h : Attempted s limits w [e] r s' w')
    (nothing : e.content = none) (fires : s.Interrupted limits w.now) :
    r = .ok none ∧ s' = { s with state := .closed } := by
  have silent : e.subscription? s.connection.codec = none :=
    Exchange.subscription?_of_nothing nothing
  cases h with
  | answered _ _ came => cases silent.symm.trans came
  | failed _ _ came => cases silent.symm.trans came
  | interrupted => exact ⟨rfl, rfl⟩
  | late _ _ calm => exact absurd fires calm
  | abandoned _ _ calm => exact absurd fires calm

/-- A fetch that runs out of time leaves the stream as it was, waiting for its next fetch. -/
theorem Attempted.outOfTime {err : Error} (h : Attempted s limits w es r s' w') (fit : s.Fit)
    (fails : r = .error (.failed err)) (late : err.kind = .timeout) :
    s' = s ∧ s.state = .subscribed := by
  cases h with
  | pending | ended | signalled | idless | answered | interrupted | abandoned => cases fails
  | refused _ _ _ _ _ usage =>
    cases fails
    exact absurd (usage.symm.trans late) (by decide)
  | failed _ _ came =>
    cases fails
    exact absurd late (Exchange.kind_subscription came)
  | late asked =>
    have state : s.state = .subscribed := by
      rcases state : s.state with _ | _ | _
      · rfl
      · exact absurd state fit.settled
      · exact absurd state asked.isOpen
    refine ⟨?_, state⟩
    rw [← state]

/-- Any other failure closes the stream and takes its token away. -/
theorem Attempted.failing {err : Error} (h : Attempted s limits w es r s' w')
    (fails : r = .error (.failed err)) (prompt : err.kind ≠ .timeout) :
    s'.state = .closed ∧ s'.streamId = none := by
  cases h with
  | pending | ended | signalled | idless | answered | interrupted | abandoned => cases fails
  | refused | failed => exact ⟨rfl, rfl⟩
  | late =>
    cases fails
    exact absurd rfl prompt

end attempted

/-! ## What waiting for an event keeps -/

/-- A call that fetches at most one event. -/
theorem entry_attempted (s : ChangeStream) {o : Occasion Demand} (tries : o.demand = .tryNext) :
    ∃ q, (s.entry o).result = q.map .found
      ∧ Attempted s o.limits o.world (s.entry o).exchanges q (s.entry o).after
          (s.entry o).left := by
  obtain ⟨d, limits, w⟩ := o
  subst tries
  obtain ⟨es, attempted⟩ := s.attempted limits w
  have row := entry_tryNext rfl attempted.sends
  rw [row]
  exact ⟨_, rfl, attempted⟩

/-- The answer to a demand tells how the fetch behind it ended. -/
theorem answer_inj {d : Demand} {q r : Except Halt (Option Document)}
    (same : q.map d.answer = r.map d.answer) : q = r := by
  have event (a b : Option Document) (same : d.answer a = d.answer b) : a = b := by
    cases d <;> cases a <;> cases b <;> cases same <;> rfl
  rcases q with h | a <;> rcases r with h' | b
  · cases same
    rfl
  · cases same
  · cases same
  · exact congrArg Except.ok (event a b (Except.ok.inj same))

section row

variable {s s' : ChangeStream} {limits : Limits} {w w' : World} {os : List (Occasion Demand)}
  {r : Except Halt (Option Document)}

/-- None of the fetches in a row is given up unless the last one is. -/
theorem Row.completed (row : Row s limits w os r s' w') (completed : r ≠ .error .abandoned) :
    ∀ b ∈ life entry s os, b.Completed := by
  obtain ⟨before, final, rows, result, goesOn⟩ := row.last
  rw [rows]
  intro b member given
  rcases List.mem_append.mp member with member | member
  · obtain ⟨q, same, again⟩ := goesOn b member
    have given := abandoned_of_map (same.symm.trans given)
    subst given
    rcases again with ⟨none, _⟩ | ⟨_, failed, _⟩
    · cases none
    · cases failed
  · cases List.mem_singleton.mp member
    exact completed (abandoned_of_map (result.symm.trans given))

/-- The last fetch in a row has its result and leaves the stream as waiting leaves it; after the
others it goes on. -/
theorem Row.final (row : Row s limits w os r s' w') : ∃ init o, os = init ++ [o]
    ∧ (∀ b ∈ life entry s init, ∃ q, b.result = q.map .found ∧ GoesOn q b.after)
    ∧ Attempted (lived entry s init) o.limits o.world ((lived entry s init).entry o).exchanges r s'
      ((lived entry s init).entry o).left := by
  obtain ⟨before, final, rows, result, goesOn⟩ := row.last
  obtain ⟨init, o, split, others, same, after⟩ := last_of_life rows
  have tries := (row.tries o (by simp [split])).1
  obtain ⟨q, given, attempted⟩ := (lived entry s init).entry_attempted tries
  rw [← same, result] at given
  have own : q = r := answer_inj (d := .tryNext) given.symm
  rw [own, ← same, ← after, row.after, same] at attempted
  rw [others] at goesOn
  exact ⟨init, o, split, goesOn, attempted⟩

/-- A failure comes out of the last fetch, and closes the stream. -/
theorem Row.failing {err : Error} (row : Row s limits w os r s' w')
    (fails : r = .error (.failed err)) : s'.state = .closed ∧ s'.streamId = none := by
  have prompt : err.kind ≠ .timeout := fun late => row.stops (.inr ⟨err, fails, late⟩)
  obtain ⟨_, _, _, _, attempted⟩ := row.final
  exact attempted.failing fails prompt

/-- What single fetches keep, waiting for an event keeps. -/
theorem Row.keeps {P : ChangeStream → Prop} (row : Row s limits w os r s' w')
    (step : ∀ {c c' : ChangeStream} {limits : Limits} {w w' : World} {es : List Exchange}
      {q : Except Halt (Option Document)}, Attempted c limits w es q c' w' → P c → P c')
    (start : P s) : P s' := by
  rw [← row.after]
  refine lived_keeps (fun c o member holds => ?_) start
  obtain ⟨q, _, attempted⟩ := c.entry_attempted (row.tries o member).1
  exact step attempted holds

/-- Only steps of the subscription are asked for, and only as long as the close signal has not
fired. -/
theorem Row.asks (row : Row s limits w os r s' w') :
    ∀ e ∈ exchanged (life entry s os),
      e.request.envelope.operation = "try_next" ∧ w.hasFired s.serial = false := by
  refine exchanged_life (P := fun c => c.serial = s.serial) (fun c o member serial => ?_) rfl
  obtain ⟨tries, _, fired⟩ := row.tries o member
  obtain ⟨q, _, attempted⟩ := c.entry_attempted tries
  refine ⟨fun e member => ?_, attempted.same.2.2.1.trans serial⟩
  have asked := attempted.asked member
  have unfired := asked.unfired
  rw [serial, fired] at unfired
  exact ⟨asked.operation, unfired⟩

/-- On a closed stream nothing is asked for. -/
theorem Row.closed (row : Row s limits w os r s' w') (closed : s.state = .closed) :
    exchanged (life entry s os) = [] ∧ s'.state = .closed ∧ s'.streamId = s.streamId := by
  refine ⟨?_, ?_⟩
  · refine silent_life (P := fun c => c.state = .closed) (fun c o member closed => ?_) closed
    obtain ⟨q, _, attempted⟩ := c.entry_attempted (row.tries o member).1
    exact ⟨(attempted.closed closed).1, (attempted.closed closed).2.1⟩
  · refine row.keeps (P := fun c => c.state = .closed ∧ c.streamId = s.streamId) ?_ ⟨closed, rfl⟩
    intro c c' limits w w' es q attempted holds
    obtain ⟨_, still, same, _⟩ := attempted.closed holds.1
    exact ⟨still, same.trans holds.2⟩

end row

/-! ## What a call keeps -/

section served

variable {s s' : ChangeStream} {o : Occasion Demand} {w' : World} {es : List Exchange}
  {r : Except Halt Result}

/-- The connection of a stream, where it was opened and its number do not change. -/
theorem Served.same (served : Served s o es r s' w') :
    s'.connection = s.connection ∧ s'.origin = s.origin ∧ s'.serial = s.serial := by
  cases served with
  | still | timed | parted => exact ⟨rfl, rfl, rfl⟩
  | tried _ _ _ attempt =>
    obtain ⟨connection, origin, serial, _⟩ := attempt.same
    exact ⟨connection, origin, serial⟩
  | waited _ _ _ row =>
    refine row.keeps (P := fun c => c.connection = s.connection ∧ c.origin = s.origin
      ∧ c.serial = s.serial) ?_ ⟨rfl, rfl, rfl⟩
    intro c c' limits w w' es q attempted holds
    obtain ⟨connection, origin, serial, _⟩ := attempted.same
    exact ⟨connection.trans holds.1, origin.trans holds.2.1, serial.trans holds.2.2⟩

/-- A close signal that has fired stays so. -/
theorem Served.signal (served : Served s o es r s' w') (fired : o.world.hasFired s.serial = true) :
    w'.hasFired s.serial = true := by
  cases served with
  | still | timed => exact fired
  | tried _ _ _ attempt => exact (attempt.sends.hasFired s.serial).trans fired
  | waited _ _ _ row => exact (row.sends.hasFired s.serial).trans fired
  | parted _ _ _ _ fired => exact fired

/-- Steps of the subscription are asked for as long as the close signal has not fired; the only
other request is the one that closing sends. -/
theorem Served.asks (served : Served s o es r s' w') :
    (¬ o.demand.Closes s ∧ ∀ e ∈ es, e.request.envelope.operation = "try_next"
        ∧ o.world.hasFired s.serial = false)
      ∨ (o.demand.Closes s ∧ s.Parting o.world es) := by
  cases served with
  | still _ _ kept => exact .inl ⟨kept, by simp⟩
  | timed _ _ _ kept => exact .inl ⟨kept, by simp⟩
  | parted _ _ closes parting => exact .inr ⟨closes, parting⟩
  | waited _ _ kept row => exact .inl ⟨kept, row.asks⟩
  | tried _ _ kept attempt =>
    refine .inl ⟨kept, fun e member => ?_⟩
    have asked := attempt.asked member
    exact ⟨asked.operation, asked.unfired⟩

/-- Closing leaves the stream closed and empty, whatever comes of the request, and its close signal
fired. -/
theorem Served.emptied (served : Served s o es r s' w') (closes : o.demand.Closes s) :
    s' = s.emptied ∧ w'.hasFired s.serial = true := by
  cases served with
  | still _ _ kept | timed _ _ _ kept | tried _ _ kept | waited _ _ kept =>
    exact absurd closes kept
  | parted _ _ _ _ fired => exact ⟨rfl, fired⟩

/-- A closed stream stays so and asks for nothing; its token stays until it is closed. -/
theorem Served.closed (served : Served s o es r s' w') (closed : s.state = .closed)
    (kept : ¬ o.demand.Closes s) :
    es = [] ∧ s'.state = .closed ∧ s'.streamId = s.streamId := by
  cases served with
  | still | timed => exact ⟨rfl, closed, rfl⟩
  | tried _ _ _ attempt =>
    obtain ⟨silent, still, same, _⟩ := attempt.closed closed
    exact ⟨silent, still, same⟩
  | waited _ _ _ row => exact row.closed closed
  | parted _ _ closes => exact absurd closes kept

/-- A closed stream without a token stays so and sends nothing, not even when it is closed. -/
theorem Served.silent (served : Served s o es r s' w') (closed : s.state = .closed)
    (released : s.streamId = none) : es = [] ∧ s'.state = .closed ∧ s'.streamId = none := by
  rcases served.asks with ⟨kept, _⟩ | ⟨closes, parting⟩
  · obtain ⟨silent, still, same⟩ := served.closed closed kept
    exact ⟨silent, still, same.trans released⟩
  · obtain ⟨rfl, _⟩ := served.emptied closes
    rcases parting with ⟨none, _⟩ | ⟨id, _, held, _⟩
    · exact ⟨none, rfl, rfl⟩
    · rw [released] at held
      cases held

/-- A stream that is no longer alive stays so. -/
theorem Served.dead (served : Served s o es r s' w') (dead : s.pending = none ∧ s.state = .closed) :
    s'.pending = none ∧ s'.state = .closed := by
  cases served with
  | still | timed => exact dead
  | tried _ _ _ attempt =>
    obtain ⟨_, _, _, spent⟩ := attempt.closed dead.2
    rw [(spent dead.1).2]
    exact dead
  | waited _ _ _ row =>
    refine row.keeps (P := fun c => c.pending = none ∧ c.state = .closed) ?_ dead
    intro c c' limits w w' es q attempted dead
    obtain ⟨_, _, _, spent⟩ := attempted.closed dead.2
    rw [(spent dead.1).2]
    exact dead
  | parted => exact ⟨rfl, rfl⟩

/-- What a call that asks for at most one fetch comes to. -/
theorem Served.attempt (served : Served s o es r s' w') (tries : o.demand.Tries s) :
    ∃ q, r = q.map o.demand.answer ∧ Attempted s o.limits o.world es q s' w' := by
  cases served with
  | still idle | timed _ idle | waited idle | parted idle => exact absurd tries idle
  | tried _ _ _ attempt => exact ⟨_, rfl, attempt⟩

/-- What a call that waits for an event comes to. -/
theorem Served.row (served : Served s o es r s' w') (waits : o.demand.Waits s) :
    ∃ os q, es = exchanged (life entry s os) ∧ r = q.map o.demand.answer
      ∧ Row s o.limits o.world os q s' w' := by
  cases served with
  | still _ brisk | timed _ _ brisk | tried _ brisk | parted _ brisk => exact absurd waits brisk
  | waited _ _ _ row => exact ⟨_, _, rfl, rfl, row⟩

end served

/-- Calls change neither the connection of a stream nor where it was opened. -/
theorem same_lived (s : ChangeStream) (os : List (Occasion Demand)) :
    (lived entry s os).connection = s.connection ∧ (lived entry s os).origin = s.origin := by
  refine lived_keeps (P := fun c : ChangeStream => c.connection = s.connection
    ∧ c.origin = s.origin) (fun c o _ same => ?_) ⟨rfl, rfl⟩
  obtain ⟨connection, origin, _⟩ := (c.entry_served o).same
  exact ⟨connection.trans same.1, origin.trans same.2⟩

/-! ## The ledger -/

/-- How a change stream stands to the exchanges of its life. -/
structure Ledger (connection : Connection) (origin : Route) (serial : Nat) (es : List Exchange)
    (s : ChangeStream) : Prop where
  /-- It keeps its connection. -/
  connection_eq : s.connection = connection
  /-- It keeps the route of the object that opened it. -/
  origin_eq : s.origin = origin
  /-- It keeps its number. -/
  serial_eq : s.serial = serial
  /-- The state goes with what it holds. -/
  fit : s.Fit
  /-- As long as it holds a token, the remote side has not been told that it is closed. -/
  untold : s.streamId ≠ none → farewells es = []
  /-- The remote side is told at most once. -/
  once : (farewells es).length ≤ 1

section ledger

variable {connection : Connection} {origin : Route} {serial : Nat} {before es : List Exchange}
  {s s' : ChangeStream} {w' : World}

/-- A stream that has just been opened has made no exchanges. -/
theorem ledger_ofSeed (connection : Connection) (origin : Route) (serial : Nat)
    (seed : StreamSeed) :
    Ledger connection origin serial [] (ofSeed connection origin serial seed) where
  connection_eq := rfl
  origin_eq := rfl
  serial_eq := rfl
  fit := fit_ofSeed connection origin serial seed
  untold _ := rfl
  once := Nat.zero_le 1

/-- A fetch keeps the ledger. -/
theorem Ledger.attempt (ledger : Ledger connection origin serial before s) {limits : Limits}
    {w : World} {q : Except Halt (Option Document)} (attempt : Attempted s limits w es q s' w')
    (completed : q ≠ .error .abandoned) :
    Ledger connection origin serial (before ++ es) s' := by
  obtain ⟨connection_eq, origin_eq, serial_eq, _⟩ := attempt.same
  have asks : ∀ e ∈ es, e.request.envelope.operation = "try_next" :=
    fun e member => (attempt.asked member).operation
  have same : farewells (before ++ es) = farewells before := by
    rw [farewells_append, farewells_of_asks (by decide) asks, List.append_nil]
  refine ⟨connection_eq.trans ledger.connection_eq, origin_eq.trans ledger.origin_eq,
    serial_eq.trans ledger.serial_eq, attempt.fit completed ledger.fit, ?_, ?_⟩
  · intro held
    rw [same]
    exact ledger.untold (attempt.streamId held)
  · rw [same]
    exact ledger.once

/-- A call keeps the ledger. -/
theorem Ledger.call (ledger : Ledger connection origin serial before s) {o : Occasion Demand}
    {r : Except Halt Result} (served : Served s o es r s' w') (completed : r ≠ .error .abandoned) :
    Ledger connection origin serial (before ++ es) s' := by
  have halts {q : Except Halt (Option Document)}
      (completed : q.map o.demand.answer ≠ .error .abandoned) : q ≠ .error .abandoned := by
    rintro rfl
    exact completed rfl
  cases served with
  | still =>
    rw [List.append_nil]
    exact ledger
  | timed =>
    rw [List.append_nil]
    exact ⟨ledger.connection_eq, ledger.origin_eq, ledger.serial_eq,
      ⟨ledger.fit.settled, ledger.fit.held⟩, ledger.untold, ledger.once⟩
  | tried _ _ _ attempt => exact ledger.attempt attempt (halts completed)
  | @waited os q _ _ _ _ _ row =>
    -- each try of the row is a call of its own, with the exchanges of the tries before it
    have step (rows : List (Entry ChangeStream)) (c : ChangeStream) (o : Occasion Demand)
        (member : o ∈ os) (ledger : Ledger connection origin serial (before ++ exchanged rows) c)
        (completed : (c.entry o).Completed) :
        Ledger connection origin serial (before ++ exchanged (rows ++ [c.entry o]))
          (c.entry o).after := by
      obtain ⟨q, given, attempt⟩ := c.entry_attempted (row.tries o member).1
      have halts : q ≠ .error .abandoned := by
        rintro rfl
        exact completed given
      rw [exchanged_append, exchanged_singleton, ← List.append_assoc]
      exact ledger.attempt attempt halts
    have start : Ledger connection origin serial
        (before ++ exchanged ([] : List (Entry ChangeStream)))
        s := by
      rw [show exchanged ([] : List (Entry ChangeStream)) = [] from rfl, List.append_nil]
      exact ledger
    rw [← row.after]
    exact life_keeps step [] start (row.completed (halts completed))
  | parted _ _ _ parting =>
    refine ⟨ledger.connection_eq, ledger.origin_eq, ledger.serial_eq, .of_closed rfl,
      fun held => absurd rfl held, ?_⟩
    rw [farewells_append]
    rcases parting with ⟨rfl, _⟩ | ⟨id, e, held, _, _, rfl⟩
    · rw [show farewells [] = [] from rfl, List.append_nil]
      exact ledger.once
    · rw [ledger.untold (by rw [held]; simp), List.nil_append]
      exact List.length_filter_le _ _

end ledger

/-! ## The life cycle -/

/-- How a change stream stands after the exchanges of its life so far, and how it goes on from
there. -/
structure Cycle (connection : Connection) (origin : Route) (es : List Exchange) (s : ChangeStream) :
    Prop where
  /-- It waits for its next fetch, with a token, or is closed. -/
  fit : s.Fit
  /-- The remote side has been told of the closing at most once. -/
  once : (farewells es).length ≤ 1
  /-- Where anything is sent next, it is a fetch, before the close signal has fired, or the one
  request that closing sends, with the token that is held. -/
  asks (o : Occasion Demand) : ∀ e ∈ (s.entry o).exchanges,
    (¬ o.demand.Closes s ∧ e.request.envelope.operation = "try_next"
        ∧ o.world.hasFired s.serial = false)
      ∨ (o.demand.Closes s ∧ (s.entry o).exchanges = [e] ∧ ∃ id, s.streamId = some id
        ∧ e.request = connection.request ⟨"close", [], [], origin.stateful .changeStream id⟩)
  /-- Closing leaves it closed and empty and its close signal fired, whatever comes back for the
  request, and nothing is sent any more. -/
  closing (o : Occasion Demand) : o.demand.Closes s →
    (s.entry o).after = s.emptied ∧ (s.entry o).left.hasFired s.serial = true
      ∧ ∀ more, exchanged (life entry (s.entry o).after more) = []
  /-- As long as it holds a token, closing it on an open client tells the remote side. -/
  release (o : Occasion Demand) (id : String) : o.demand.Closes s → s.streamId = some id →
    o.world.isClosed connection.client = false → ∃ e, (s.entry o).exchanges = [e]
      ∧ e.request = connection.request ⟨"close", [], [], origin.stateful .changeStream id⟩
  /-- A close signal that has fired stays so. -/
  signal (o : Occasion Demand) : o.world.hasFired s.serial = true →
    (s.entry o).left.hasFired s.serial = true
  /-- Once the close signal has fired, no fetch is posted any more. -/
  fired (more : List (Occasion Demand)) : (∀ o ∈ more, o.world.hasFired s.serial = true) →
    ∀ e ∈ exchanged (life entry s more), e.request.envelope.operation ≠ "try_next"
  /-- Once the close signal has fired, a fetch without a pending event comes to nothing and leaves
  the stream closed, with the token it holds. -/
  stopped (o : Occasion Demand) : o.demand.Tries s → s.pending = none →
    o.world.hasFired s.serial = true → (s.entry o).exchanges = []
      ∧ (s.entry o).result = .ok (o.demand.answer none)
      ∧ (s.entry o).after = { s with state := .closed }
  /-- So does a fetch that the close signal interrupts. -/
  interrupted (o : Occasion Demand) (e : Exchange) : o.demand.Tries s →
    (s.entry o).exchanges = [e] → e.content = none → s.Interrupted o.limits o.world.now →
      (s.entry o).result = .ok (o.demand.answer none)
        ∧ (s.entry o).after = { s with state := .closed }
  /-- From then on nothing is sent unless it is closed, the token stays, and a fetch without a
  pending event comes to nothing. -/
  ended (o : Occasion Demand) : s.state = .closed → ¬ o.demand.Closes s →
    (s.entry o).exchanges = [] ∧ (s.entry o).after.state = .closed
      ∧ (s.entry o).after.streamId = s.streamId
      ∧ (o.demand.Tries s → s.pending = none → (s.entry o).result = .ok (o.demand.answer none))
  /-- A fetch that runs out of time leaves the stream as it was, waiting for its next fetch. -/
  outOfTime (o : Occasion Demand) (err : Error) : o.demand.Tries s →
    (s.entry o).result = .error (.failed err) → err.kind = .timeout →
      (s.entry o).after = s ∧ s.state = .subscribed
  /-- Any other failure leaves it closed and without a token. -/
  failing (o : Occasion Demand) (err : Error) : o.demand.Tries s ∨ o.demand.Waits s →
    (s.entry o).result = .error (.failed err) → err.kind ≠ .timeout →
      (s.entry o).after.state = .closed ∧ (s.entry o).after.streamId = none
  /-- Waiting for an event is a row of fetches, each on a stream of which all this holds. -/
  waits (o : Occasion Demand) : o.demand.Waits s → ∃ os q,
    (s.entry o).exchanges = exchanged (life entry s os)
      ∧ (s.entry o).result = q.map o.demand.answer
      ∧ Row s o.limits o.world os q (s.entry o).after (s.entry o).left
  /-- Once it is no longer alive, it stays so and has no event to hand out or to wait for. -/
  dead : s.isAlive = false → ∀ more, (lived entry s more).isAlive = false ∧ ∀ limits w,
    (lived entry s more).tryNext limits w = (.ok none, lived entry s more, w)
      ∧ (lived entry s more).nextEvent limits w = (.ok none, lived entry s more, w)

/-- Nothing more comes of a stream that is closed and has no event left. -/
theorem isAlive_eq_false {s : ChangeStream} :
    s.isAlive = false ↔ s.pending = none ∧ s.state = .closed := by
  unfold isAlive
  cases s.pending <;> simp

/-- What the ledger of a change stream says about how it goes on. -/
theorem Ledger.cycle {connection : Connection} {origin : Route} {serial : Nat} {es : List Exchange}
    {s : ChangeStream} (ledger : Ledger connection origin serial es s) :
    Cycle connection origin es s where
  fit := ledger.fit
  once := ledger.once
  asks o e member := by
    rcases (s.entry_served o).asks with ⟨kept, asks⟩ | ⟨closes, parting⟩
    · exact .inl ⟨kept, asks e member⟩
    · obtain ⟨one, id, held, request⟩ := parting.asks member
      rw [ledger.connection_eq, ledger.origin_eq] at request
      exact .inr ⟨closes, one, id, held, request⟩
  closing o closes := by
    obtain ⟨after, fired⟩ := (s.entry_served o).emptied closes
    refine ⟨after, fired, fun more => ?_⟩
    rw [after]
    refine silent_life (P := fun c => c.state = .closed ∧ c.streamId = none)
      (fun c o _ released => ?_) ⟨rfl, rfl⟩
    exact (c.entry_served o).silent released.1 released.2
  release o id closes held isOpen := by
    rcases (s.entry_served o).asks with ⟨kept, _⟩ | ⟨_, parting⟩
    · exact absurd closes kept
    · rcases parting with ⟨_, none | closed⟩ | ⟨id', e, held', _, request, one⟩
      · rw [held] at none
        cases none
      · rw [ledger.connection_eq, isOpen] at closed
        cases closed
      · cases held.symm.trans held'
        rw [ledger.connection_eq, ledger.origin_eq] at request
        exact ⟨e, one, request⟩
  signal o fired := (s.entry_served o).signal fired
  fired more fired := by
    refine exchanged_life (P := fun c => c.serial = s.serial) (fun c o member serial => ?_) rfl
    have served := c.entry_served o
    refine ⟨fun e asks same => ?_, served.same.2.2.trans serial⟩
    rcases served.asks with ⟨_, fetches⟩ | ⟨_, parting⟩
    · have unfired := (fetches e asks).2
      rw [serial, fired o member] at unfired
      cases unfired
    · obtain ⟨_, id, _, request⟩ := parting.asks asks
      rw [request] at same
      exact absurd same (show "close" ≠ "try_next" by decide)
  stopped o tries none fired := by
    obtain ⟨q, result, attempt⟩ := (s.entry_served o).attempt tries
    obtain ⟨silent, nothing, after⟩ := attempt.stopped none fired
    exact ⟨silent, by rw [result, nothing]; rfl, after⟩
  interrupted o e tries one nothing fires := by
    obtain ⟨q, result, attempt⟩ := (s.entry_served o).attempt tries
    rw [one] at attempt
    obtain ⟨none, after⟩ := attempt.interrupts nothing fires
    exact ⟨by rw [result, none]; rfl, after⟩
  ended o closed kept := by
    obtain ⟨silent, still, same⟩ := (s.entry_served o).closed closed kept
    refine ⟨silent, still, same, fun tries none => ?_⟩
    obtain ⟨q, result, attempt⟩ := (s.entry_served o).attempt tries
    obtain ⟨_, _, _, spent⟩ := attempt.closed closed
    rw [result, (spent none).1]
    rfl
  outOfTime o err tries fails late := by
    obtain ⟨q, result, attempt⟩ := (s.entry_served o).attempt tries
    exact attempt.outOfTime ledger.fit (failed_of_map (result.symm.trans fails)) late
  failing o err fetches fails prompt := by
    rcases fetches with tries | waits
    · obtain ⟨q, result, attempt⟩ := (s.entry_served o).attempt tries
      exact attempt.failing (failed_of_map (result.symm.trans fails)) prompt
    · obtain ⟨os, q, _, result, row⟩ := (s.entry_served o).row waits
      exact row.failing (failed_of_map (result.symm.trans fails))
  waits o waits := (s.entry_served o).row waits
  dead dead more := by
    have stays : ∀ (c : ChangeStream), ∀ o ∈ more, c.pending = none ∧ c.state = .closed →
        (c.entry o).after.pending = none ∧ (c.entry o).after.state = .closed :=
      fun c o _ dead => (c.entry_served o).dead dead
    have still := lived_keeps stays (isAlive_eq_false.mp dead)
    refine ⟨isAlive_eq_false.mpr still, fun limits w => ?_⟩
    exact ⟨serve_closed still.1 still.2 .tryNext, serve_closed still.1 still.2 .nextEvent⟩

/-- The life cycle of a change stream, from any seed and by any completed calls, whatever comes back
for its requests and whenever its close signal fires or the client is closed: it waits for its next
fetch or is closed; nothing is fetched once the close signal has fired, and nothing is sent once it
has been closed; a fetch that runs out of time leaves it as it was, an interrupted one leaves it
closed with its token, and any other failure leaves it closed without one; and the remote side is
told of the closing at most once. -/
theorem stream_life_cycle (connection : Connection) (origin : Route) (serial : Nat)
    (seed : StreamSeed) (os : List (Occasion Demand))
    (completed : ∀ r ∈ life entry (ofSeed connection origin serial seed) os, r.Completed) :
    Cycle connection origin (exchanged (life entry (ofSeed connection origin serial seed) os))
      (lived entry (ofSeed connection origin serial seed) os) := by
  have step (rows : List (Entry ChangeStream)) (s : ChangeStream) (o : Occasion Demand) (_ : o ∈ os)
      (ledger : Ledger connection origin serial (exchanged rows) s)
      (completed : (s.entry o).Completed) :
      Ledger connection origin serial (exchanged (rows ++ [s.entry o])) (s.entry o).after := by
    rw [exchanged_append, exchanged_singleton]
    exact ledger.call (s.entry_served o) completed
  have start := ledger_ofSeed connection origin serial seed
  have ledger := life_keeps step [] start completed
  exact ledger.cycle

/-- A change stream whose only fetch is interrupted by its close signal, and that is then closed. -/
theorem stream_life_cycle_interrupted :
    let endpoint : Endpoint := ⟨⟨[], none, .bare [], none, none⟩, []⟩
    let connection : Connection := ⟨0, endpoint, .relaxed, 30000⟩
    let s := ofSeed connection .client 0 ⟨some "t", none, none, true⟩
    let w := World.start (.ofScript [("try_next", ⟨none, 0⟩)])
    let os : List (Occasion Demand) :=
      [⟨.tryNext, ⟨10, some (0, 5)⟩, w⟩, ⟨.close, ⟨10, none⟩, w.fire 0⟩]
    (∀ r ∈ life entry s os, r.Completed)
      ∧ Cycle connection .client (exchanged (life entry s os)) (lived entry s os) := by
  intro endpoint connection s w os
  have completed : ∀ r ∈ life entry s os, r.Completed := by decide +kernel
  exact ⟨completed,
    stream_life_cycle connection .client 0 ⟨some "t", none, none, true⟩ os completed⟩

end ChangeStream

end RemoteDriver
