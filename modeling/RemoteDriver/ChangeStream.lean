import RemoteDriver.Cursor
import RemoteDriver.Time.Span

/-!
# Subscriptions to changes

A change stream fetches one event at a time from a subscription that the remote side keeps.  Each
fetch is bounded in time and may be broken off by a close signal, which anybody who holds it can
fire.  A fetch that takes too long leaves the subscription as it was; a fetch that fails in any
other way ends it.
-/

namespace RemoteDriver

open Bson (Document Value)

/-- The life of a change stream. -/
inductive StreamState
  /-- It waits for the next fetch. -/
  | subscribed
  /-- A request is under way, or was given up. -/
  | fetching
  /-- It has ended. -/
  | closed
deriving DecidableEq, Repr

/-- The name of a state. -/
def StreamState.name : StreamState → String
  | subscribed => "Subscribed"
  | fetching => "Fetching"
  | closed => "Closed"

/-- A change stream. -/
structure ChangeStream where
  /-- The connection of its client. -/
  connection : Connection
  /-- The route of the object that opened it. -/
  origin : Route
  /-- Its number, which is also the number of its close signal. -/
  serial : Nat
  /-- The token of the subscription. -/
  streamId : Option String
  /-- The token to resume after the event handed out last. -/
  resumeToken : Option Document
  /-- The event that came with the reply that opened it, until it is handed out. -/
  pending : Option Document
  /-- How long one fetch may take, in milliseconds. -/
  timeout : Nat
  /-- Where it is in its life. -/
  state : StreamState

namespace ChangeStream

/-- The change stream that a reply opens. -/
def ofSeed (connection : Connection) (origin : Route) (serial : Nat) (seed : StreamSeed) :
    ChangeStream :=
  ⟨connection, origin, serial, seed.streamId, seed.resumeToken, seed.event,
    connection.streamTimeout,
    if seed.alive && seed.streamId.isSome then .subscribed else .closed⟩

/-- Whether more events may come. -/
def isAlive (s : ChangeStream) : Bool := s.pending.isSome || decide (s.state ≠ .closed)

/-- The route of calls on it. -/
def route (s : ChangeStream) : Route := s.origin.toHandle .changeStream s.streamId

/-- The change stream with another bound on a fetch. -/
def withTimeout (s : ChangeStream) (timeout : Nat) : ChangeStream := { s with timeout := timeout }

/-- Its description. -/
def description (s : ChangeStream) : String :=
  "ChangeStream \x7b stream_id: " ++ Text.quotedOption s.streamId ++ ", state: " ++ s.state.name
    ++ ", timeout: " ++ Time.spanText s.timeout ++ " \x7d"

/-! ## Fetching -/

/-- The token in an event: its `_id`, if that is a document. -/
def eventToken (event : Document) : Option Document :=
  match event.lookup "_id" with
  | some (.document d) => some d
  | _ => none

/-- The change stream after a step that the remote side sent. -/
def continued (s : ChangeStream) (seed : StreamSeed) : ChangeStream :=
  { s with
    streamId := if seed.alive then seed.streamId.or s.streamId else none
    resumeToken := (seed.resumeToken.or (seed.event.bind eventToken)).or s.resumeToken
    state := if seed.alive then .subscribed else .closed }

/-- Fetches a step, unless the close signal fires first. -/
def fetch (s : ChangeStream) (id : String) (closing : Option Nat) :
    Action (Option StreamSeed) := fun limits w =>
  match Action.interruptedAt closing
      (s.connection.dispatchWithin s.timeout (some s.serial) (.bare "try_next")
        (s.origin.stateful .changeStream id)) limits w with
  | (.ok none, w) => (.ok none, w)
  | (.ok (some reply), w) =>
    match reply.toStream "try_next" with
    | .ok seed => (.ok (some seed), w)
    | .error e => (.error (.failed e), w)
  | (.error h, w) => (.error h, w)

/-- When the close signal fires while a computation runs, if it does. -/
def closingTime (s : ChangeStream) (limits : Limits) : Option Nat :=
  match limits.closing with
  | some (serial, time) => if serial = s.serial then some time else none
  | none => none

/-- Fetches at most one event, with at most one request.  There is no event if none came, and none
once the stream has ended. -/
def tryNext (s : ChangeStream) (limits : Limits) (w : World) :
    Except Halt (Option Document) × ChangeStream × World :=
  match s.pending with
  | some event => (.ok (some event), { s with pending := none }, w)
  | none =>
    if s.state = .closed then (.ok none, s, w)
    else if w.hasFired s.serial then (.ok none, { s with state := .closed }, w)
    else
      match s.streamId with
      | none => (.ok none, { s with state := .closed }, w)
      | some id =>
        match s.fetch id (s.closingTime limits) limits w with
        | (.ok none, w) => (.ok none, { s with state := .closed }, w)
        | (.ok (some seed), w) => (.ok seed.event, s.continued seed, w)
        | (.error (.failed e), w) =>
          if e.kind = .timeout then (.error (.failed e), { s with state := .subscribed }, w)
          else (.error (.failed e), { s with state := .closed, streamId := none }, w)
        | (.error .abandoned, w) => (.error .abandoned, { s with state := .fetching }, w)

/-- A pending event is handed out without a fetch. -/
theorem tryNext_pending {s : ChangeStream} {event : Document} (held : s.pending = some event)
    (limits : Limits) (w : World) :
    s.tryNext limits w = (.ok (some event), { s with pending := none }, w) := by
  unfold tryNext
  rw [held]

/-- A change stream at its end has no event. -/
theorem tryNext_ended {s : ChangeStream} (empty : s.pending = none) (ended : s.state = .closed)
    (limits : Limits) (w : World) : s.tryNext limits w = (.ok none, s, w) := by
  unfold tryNext
  rw [empty]
  exact if_pos ended

/-! ## Events -/

/-- The outcomes of a call that cost the script an answer: a step of a subscription, a caller who
stops waiting, and a fetch that takes too long. -/
def Costs : Except Halt Reply → Prop
  | .ok (.stream _) => True
  | .error .abandoned => True
  | .error (.failed e) => e.kind = .timeout
  | _ => False

/-- A call with a costly outcome takes an answer from the script. -/
theorem remaining_of_dispatch {c : Connection} {sender : Sender} {call : Call} {route : Route}
    {limits : Limits} {w : World} (h : Costs (c.dispatch sender call route limits w).1) :
    (c.dispatch sender call route limits w).2.remaining < w.remaining := by
  rcases c.dispatch_cases sender call route limits w with lt | ⟨v, hv⟩ | ⟨e, he, hk⟩
  · exact lt
  · rw [hv] at h
    exact h.elim
  · rw [he] at h
    exact absurd h hk

/-- The same of a call that is bounded in time. -/
theorem remaining_of_dispatchWithin {c : Connection} {span : Nat} {sender : Sender} {call : Call}
    {route : Route} {limits : Limits} {w : World}
    (h : Costs (c.dispatchWithin span sender call route limits w).1) :
    (c.dispatchWithin span sender call route limits w).2.remaining < w.remaining := by
  unfold Connection.dispatchWithin Action.within at h ⊢
  dsimp only at h ⊢
  split
  · next fits =>
    rw [if_pos fits] at h
    split
    · next hd =>
      have : (c.dispatch sender call route { limits with deadline := w.now + span } w).2.remaining
          < w.remaining := remaining_of_dispatch (by rw [hd]; trivial)
      rw [hd] at this
      exact this
    · next hn =>
      split at h
      · next hd => exact absurd hd (hn _)
      · exact remaining_of_dispatch h
  · next fits =>
    rw [if_neg fits] at h
    exact remaining_of_dispatch h

/-- The same of a bounded call that a close signal may break off, if it is not broken off. -/
theorem remaining_of_interruptedAt {c : Connection} {span : Nat} {sender : Sender} {call : Call}
    {route : Route} {limits : Limits} {w w' : World} {moment : Option Nat}
    {r : Except Halt Reply}
    (h : Action.interruptedAt moment (c.dispatchWithin span sender call route) limits w
      = (r.map some, w')) (hr : Costs r) : w'.remaining < w.remaining := by
  have same {a b : Except Halt Reply} (hab : a.map some = b.map some) : a = b := by
    cases a <;> cases b <;> simp_all [Except.map]
  have back {limits : Limits}
      (h1 : (c.dispatchWithin span sender call route limits w).1.map some = r.map some)
      (h2 : (c.dispatchWithin span sender call route limits w).2 = w') :
      w'.remaining < w.remaining :=
    h2 ▸ remaining_of_dispatchWithin (same h1 ▸ hr)
  unfold Action.interruptedAt at h
  split at h
  · exact back (congrArg Prod.fst h) (congrArg Prod.snd h)
  · dsimp only at h
    split at h
    · split at h
      · cases r with
        | ok reply => simp [Except.map] at h
        | error e => simp [Except.map] at h
      · next hd =>
        simp only [Prod.mk.injEq] at h
        exact back (by rw [hd]; exact h.1) (by rw [hd]; exact h.2)
    · exact back (congrArg Prod.fst h) (congrArg Prod.snd h)

/-- A step that comes, and a fetch that takes too long, cost the script an answer. -/
theorem remaining_of_fetch {s : ChangeStream} {id : String} {closing : Option Nat}
    {limits : Limits} {w w' : World} {r : Except Halt (Option StreamSeed)}
    (h : s.fetch id closing limits w = (r, w'))
    (hr : (∃ seed, r = .ok (some seed)) ∨ ∃ e, r = .error (.failed e) ∧ e.kind = .timeout) :
    w'.remaining < w.remaining := by
  unfold fetch at h
  split at h
  · next hd =>
    cases h
    rcases hr with ⟨_, hr⟩ | ⟨_, hr, _⟩ <;> cases hr
  · next reply w'' hd =>
    cases reply with
    | stream seed =>
      cases h
      exact remaining_of_interruptedAt (r := .ok (.stream seed)) hd trivial
    | value v =>
      cases h
      rcases hr with ⟨_, hr⟩ | ⟨_, hr, hk⟩ <;> cases hr
      cases hk
    | cursor seed =>
      cases h
      rcases hr with ⟨_, hr⟩ | ⟨_, hr, hk⟩ <;> cases hr
      cases hk
  · next halt w'' hd =>
    cases h
    rcases hr with ⟨_, hr⟩ | ⟨e, hr, hk⟩ <;> cases hr
    exact remaining_of_interruptedAt (r := .error (.failed e)) hd hk

/-- A fetch that brings no event, or takes too long, and leaves the stream open costs the script an
answer. -/
theorem remaining_of_tryNext {s s' : ChangeStream} {limits : Limits} {w w' : World}
    {r : Except Halt (Option Document)} (h : s.tryNext limits w = (r, s', w'))
    (hr : (r = .ok none ∧ s'.state ≠ .closed) ∨ ∃ e, r = .error (.failed e) ∧ e.kind = .timeout) :
    w'.remaining < w.remaining := by
  have no {r : Except Halt (Option Document)} {s' : ChangeStream} (hr : (r = .ok none
      ∧ s'.state ≠ .closed) ∨ ∃ e, r = .error (.failed e) ∧ e.kind = .timeout) :
      r ≠ .error .abandoned ∧ (s'.state = .closed → r ≠ .ok none) ∧ ∀ d, r ≠ .ok (some d) := by
    rcases hr with ⟨rfl, hs⟩ | ⟨e, rfl, _⟩ <;> simp_all
  have ⟨halts, ends, hands⟩ := no hr
  unfold tryNext at h
  split at h
  · exact absurd (congrArg Prod.fst h).symm (hands _)
  · split at h
    · next closed =>
      cases h
      exact absurd rfl (ends closed)
    · split at h
      · cases h
        exact absurd rfl (ends rfl)
      · split at h
        · cases h
          exact absurd rfl (ends rfl)
        · split at h
          · cases h
            exact absurd rfl (ends rfl)
          · next hf =>
            cases h
            exact remaining_of_fetch hf (Or.inl ⟨_, rfl⟩)
          · next e _ hf =>
            split at h
            · next hk =>
              cases h
              exact remaining_of_fetch hf (Or.inr ⟨_, rfl, hk⟩)
            · next hk =>
              cases h
              rcases hr with ⟨hr, _⟩ | ⟨e', he, hk'⟩
              · cases hr
              · cases he
                exact absurd hk' hk
          · cases h
            exact absurd rfl halts

/-- Waits for the next event and fetches until one comes; there is none once the stream has ended.
Fetches that take too long are repeated. -/
def nextEvent (s : ChangeStream) (limits : Limits) (w : World) :
    Except Halt (Option Document) × ChangeStream × World :=
  match _fetched : s.tryNext limits w with
  | (.ok (some event), s', w') => (.ok (some event), s', w')
  | (.ok none, s', w') =>
    if _open : s'.state = .closed then (.ok none, s', w') else s'.nextEvent limits w'
  | (.error .abandoned, s', w') => (.error .abandoned, s', w')
  | (.error (.failed e), s', w') =>
    if _late : e.kind = .timeout then s'.nextEvent limits w' else (.error (.failed e), s', w')
termination_by w.remaining
decreasing_by
  · exact remaining_of_tryNext _fetched (Or.inl ⟨rfl, _open⟩)
  · exact remaining_of_tryNext _fetched (Or.inr ⟨_, rfl, _late⟩)

/-! ## Draining -/

/-- An event that is handed out was pending or costs the script an answer. -/
theorem tryNext_cases {s s' : ChangeStream} {limits : Limits} {w w' : World} {event : Document}
    (h : s.tryNext limits w = (.ok (some event), s', w')) :
    w'.remaining < w.remaining
      ∨ (w' = w ∧ s.pending.isSome = true ∧ s'.pending.isSome = false) := by
  unfold tryNext at h
  split at h
  · next hp =>
    cases h
    exact Or.inr ⟨rfl, by rw [hp]; rfl, rfl⟩
  · split at h
    · cases h
    · split at h
      · cases h
      · split at h
        · cases h
        · split at h
          · cases h
          · next hf =>
            simp only [Prod.mk.injEq] at h
            exact Or.inl (h.2.2 ▸ remaining_of_fetch hf (Or.inl ⟨_, rfl⟩))
          · split at h <;> cases h
          · cases h

/-- The same of waiting for an event. -/
theorem nextEvent_cases {s s' : ChangeStream} {limits : Limits} {w w' : World} {event : Document}
    (h : s.nextEvent limits w = (.ok (some event), s', w')) :
    w'.remaining < w.remaining
      ∨ (w' = w ∧ s.pending.isSome = true ∧ s'.pending.isSome = false) := by
  fun_induction nextEvent s limits w with
  | case1 s w event' s'' w'' hf =>
    cases h
    exact tryNext_cases hf
  | case2 => cases h
  | case3 s w s'' w'' hf live ih =>
    left
    have lt := remaining_of_tryNext hf (Or.inl ⟨rfl, live⟩)
    rcases ih h with lt' | ⟨rfl, _⟩
    · omega
    · exact lt
  | case4 => cases h
  | case5 s w e s'' w'' hf late ih =>
    left
    have lt := remaining_of_tryNext hf (Or.inr ⟨e, rfl, late⟩)
    rcases ih h with lt' | ⟨rfl, _⟩
    · omega
    · exact lt
  | case6 => cases h

/-- The events of the change stream as a stream, one after the other, up to its end. -/
def stream (s : ChangeStream) (limits : Limits) (w : World) :
    (List Document × Ending) × ChangeStream × World :=
  match _pulled : s.nextEvent limits w with
  | (.ok none, s', w') => (([], .finished), s', w')
  | (.ok (some event), s', w') =>
    match s'.stream limits w' with
    | ((events, ending), s'', w'') => ((event :: events, ending), s'', w'')
  | (.error h, s', w') => (([], .ofHalt h), s', w')
termination_by (w.remaining, if s.pending.isSome then 1 else 0)
decreasing_by
  rcases nextEvent_cases _pulled with lt | ⟨same, held, gone⟩
  · exact Prod.Lex.left _ _ lt
  · subst same
    apply Prod.Lex.right
    simp [held, gone]

/-- The first `count` events of the change stream as a stream. -/
def take : (count : Nat) → ChangeStream → Limits → World →
    (List Document × Ending) × ChangeStream × World
  | 0, s, _, w => (([], .stopped), s, w)
  | count + 1, s, limits, w =>
    match s.nextEvent limits w with
    | (.ok none, s', w') => (([], .finished), s', w')
    | (.ok (some event), s', w') =>
      match take count s' limits w' with
      | ((events, ending), s'', w'') => ((event :: events, ending), s'', w'')
    | (.error h, s', w') => (([], .ofHalt h), s', w')

/-! ## Closing -/

/-- Closes the change stream and fires its close signal.  The remote side is told with one request
if a subscription is held; closing again does nothing. -/
def close (s : ChangeStream) (limits : Limits) (w : World) :
    Except Halt Unit × ChangeStream × World :=
  let w := w.fire s.serial
  let s' := { s with pending := none, state := .closed, streamId := none }
  match s.streamId with
  | some id =>
    match s.connection.dispatch (some s.serial) (.bare "close")
        (s.origin.stateful .changeStream id) limits w with
    | (.ok _, w) => (.ok (), s', w)
    | (.error h, w) => (.error h, s', w)
  | none => (.ok (), s', w)

end ChangeStream

end RemoteDriver
