import RemoteDriver.Proofs.Closing.Cursors

/-!
# Change streams and closed clients

A change stream reaches the remote side by fetching a step of its subscription and by being closed.
Both are calls, a fetch one that may be broken off.  Waiting for an event is a loop of fetches,
which a refused call ends, since it is not a fetch that took too long.
-/

namespace RemoteDriver

open Bson (Document Value)

namespace ChangeStream

open RemoteDriver.Action

variable {k : Connection} {s : ChangeStream}

/-! ## Fetching -/

/-- The step of a subscription in a reply, if there is a reply. -/
def seed? : Option Reply → Except Error (Option StreamSeed)
  | none => .ok none
  | some reply => (reply.toStream "try_next").map some

/-- A fetch is a call that may be broken off, and the reading of its reply. -/
theorem fetch_eq (s : ChangeStream) (id : String) (closing : Option Nat) :
    s.fetch id closing = (do
      let reply? ← Action.interruptedAt closing
        (s.connection.dispatchWithin s.timeout (some s.serial) (.bare "try_next")
          (s.origin.stateful .changeStream id))
      Action.ofExcept (seed? reply?)) := by
  funext limits w
  rw [bind_eq_resumed]
  unfold fetch resumed
  rcases Action.interruptedAt closing
    (s.connection.dispatchWithin s.timeout (some s.serial) (.bare "try_next")
      (s.origin.stateful .changeStream id)) limits w with ⟨_ | _ | reply, w'⟩
  · rfl
  · rfl
  · unfold seed?
    dsimp only
    cases reply.toStream "try_next" <;> rfl

/-- A fetch is a call on the client of the stream. -/
theorem fetch_gated (s : ChangeStream) (id : String) (closing : Option Nat) :
    (s.fetch id closing).Gated s.connection.client fun _ => True := by
  rw [fetch_eq]
  exact gated_read (gated_interruptedAt (s.connection.dispatchWithin_gated _ _ _ _) closing)

/-- A fetch that the close signal may break off. -/
def pull (s : ChangeStream) (id : String) : Action (Option StreamSeed) :=
  fun limits w => s.fetch id (s.closingTime limits) limits w

/-- A fetch that the close signal may break off is gated as well. -/
theorem pull_gated (s : ChangeStream) (id : String) :
    (s.pull id).Gated s.connection.client fun _ => True := by
  have gated (limits : Limits) := s.fetch_gated id (s.closingTime limits)
  constructor
  · intro limits w
    exact (gated limits).moves limits w
  · intro n limits w shut
    exact (gated limits).compares n limits w shut
  · intro limits w
    exact (gated limits).yields limits w

/-- What a step of the subscription, or its failure, comes to. -/
def pulled (s : ChangeStream) :
    Except Halt (Option StreamSeed) → Except Halt (Option Document) × ChangeStream
  | .ok none => (.ok none, { s with state := .closed })
  | .ok (some seed) => (.ok seed.event, s.continued seed)
  | .error (.failed e) =>
    if e.kind = .timeout then (.error (.failed e), { s with state := .subscribed })
    else (.error (.failed e), { s with state := .closed, streamId := none })
  | .error .abandoned => (.error .abandoned, { s with state := .fetching })

/-- What an answer does to a stream leaves its connection. -/
theorem connection_pulled (s : ChangeStream) (r : Except Halt (Option StreamSeed)) :
    (s.pulled r).2.connection = s.connection := by
  rcases r with (e | _) | _ | _
  · unfold pulled
    dsimp only
    split <;> rfl
  · rfl
  · rfl
  · rfl

/-- A fetch that fails fails the stream with the same error. -/
theorem failure?_pulled {r : Except Halt (Option StreamSeed)} {e : Error}
    (failed : failure? r = some e) : failure? (s.pulled r).1 = some e := by
  rcases r with (e' | _) | _
  · unfold pulled
    dsimp only
    split <;> exact failed
  · cases failed
  · cases failed

/-- Fetching at most one event where no event is pending and the close signal has not fired. -/
def pullNext (s : ChangeStream) (limits : Limits) (w : World) :
    Except Halt (Option Document) × ChangeStream × World :=
  match s.streamId with
  | none => (.ok none, { s with state := .closed }, w)
  | some id => ((s.pulled (s.pull id limits w).1).1, (s.pulled (s.pull id limits w).1).2,
      (s.pull id limits w).2)

/-- A stream without a token is closed, and nothing is fetched. -/
theorem pullNext_none (held : s.streamId = none) (limits : Limits) (w : World) :
    s.pullNext limits w = (.ok none, { s with state := .closed }, w) := by
  unfold pullNext
  split
  · rfl
  · next id some =>
    rw [held] at some
    cases some

/-- A stream with a token fetches with it, and takes in what comes. -/
theorem pullNext_some {id : String} (held : s.streamId = some id) (limits : Limits) (w : World) :
    s.pullNext limits w = ((s.pulled (s.pull id limits w).1).1,
      (s.pulled (s.pull id limits w).1).2, (s.pull id limits w).2) := by
  unfold pullNext
  rw [held]

/-- Fetching the next event is gated by the client. -/
theorem pullNext_gated (own : s.connection = k) :
    GatedUse k.client failure? (fun s => s.connection = k) s.pullNext := by
  rcases held : s.streamId with _ | id
  · exact IsOver.gated ⟨.ok none, { s with state := .closed }, own, pullNext_none held⟩
  · have same : s.pullNext = fun limits w => ((s.pulled (s.pull id limits w).1).1,
        (s.pulled (s.pull id limits w).1).2, (s.pull id limits w).2) := by
      funext limits w
      exact pullNext_some held limits w
    rw [same, ← own]
    exact GatedUse.ofAction (s.pull_gated id) s.connection_pulled fun _ _ => failure?_pulled

/-- Without a pending event the remote side is asked, unless the stream has ended or is to end. -/
theorem tryNext_eq (none : s.pending = none) (isOpen : s.state ≠ .closed) (limits : Limits)
    (w : World) : s.tryNext limits w
      = if w.hasFired s.serial = true then (.ok .none, { s with state := .closed }, w)
        else s.pullNext limits w := by
  unfold tryNext
  split
  · next event held =>
    rw [none] at held
    cases held
  · rw [if_neg isOpen]
    congr 1
    split
    · next held => exact (pullNext_none held limits w).symm
    · next id held =>
      rw [pullNext_some held]
      unfold pull
      rcases s.fetch id (s.closingTime limits) limits w with ⟨(e | _) | _ | seed, w'⟩
      · unfold pulled
        dsimp only
        split <;> rfl
      · rfl
      · rfl
      · rfl

/-- Asking once for an event is gated by the client, unless it is answered without a fetch. -/
theorem tryNext_gated (own : s.connection = k) :
    GatedUse k.client failure? (fun s => s.connection = k) s.tryNext := by
  rcases held : s.pending with _ | event
  · by_cases ended : s.state = .closed
    · exact IsOver.gated ⟨.ok none, s, own, tryNext_ended held ended⟩
    · have same : s.tryNext = fun limits w => if w.hasFired s.serial = true
          then (.ok none, { s with state := .closed }, w) else s.pullNext limits w := by
        funext limits w
        exact tryNext_eq held ended limits w
      rw [same]
      refine GatedUse.ite (fun _ _ => rfl) ?_ (pullNext_gated own)
      exact IsOver.gated ⟨.ok none, { s with state := .closed }, own, fun _ _ => rfl⟩
  · exact IsOver.gated ⟨.ok (some event), { s with pending := none }, own, tryNext_pending held⟩

/-! ## Waiting for an event -/

/-- How waiting for an event goes on: if none came in time, or none came and more may, it is waited
for once more. -/
def eventTurn (r : Except Halt (Option Document)) (s : ChangeStream) :
    Turn (Except Halt (Option Document)) :=
  match r with
  | .ok (some event) => .stop (.ok (some event))
  | .ok none => if s.state = .closed then .stop (.ok none) else .again id
  | .error .abandoned => .stop (.error .abandoned)
  | .error (.failed e) => if e.kind = .timeout then .again id else .stop (.error (.failed e))

/-- An event is waited for once more where none came though more may, or none came in time. -/
theorem eventTurn_again {r : Except Halt (Option Document)} {s : ChangeStream}
    {f : Except Halt (Option Document) → Except Halt (Option Document)}
    (again : eventTurn r s = .again f) : f = id ∧ ((r = .ok none ∧ s.state ≠ .closed)
      ∨ ∃ e, r = .error (.failed e) ∧ e.kind = .timeout) := by
  unfold eventTurn at again
  split at again
  · cases again
  · split at again
    · cases again
    · next live =>
      cases again
      exact ⟨rfl, .inl ⟨rfl, live⟩⟩
  · cases again
  · split at again
    · next late =>
      cases again
      exact ⟨rfl, .inr ⟨_, rfl, late⟩⟩
    · cases again

/-- Misuse is not a fetch that took too long. -/
theorem passes_eventTurn : Passes failure? failure? eventTurn := by
  constructor
  · rintro ((e' | _) | _ | event) s e failed misuse
    · cases failed
      refine ⟨.error (.failed e'), ?_, rfl⟩
      unfold eventTurn
      dsimp only
      rw [misuse]
      rfl
    · cases failed
    · cases failed
    · cases failed
  · intro r s f a e again failed
    rw [(eventTurn_again again).1]
    exact failed

/-- Waiting for an event is asking for one, round after round, each of which takes an answer. -/
theorem nextEvent_round (s : ChangeStream) :
    Round eventTurn s.tryNext nextEvent (fun _ w => (w.remaining, 0)) s := by
  constructor
  · intro limits w
    rw [nextEvent]
    unfold unrolled eventTurn
    rcases s.tryNext limits w with ⟨(e | _) | _ | event, s', w'⟩
    · dsimp only
      split <;> rfl
    · rfl
    · dsimp only
      split <;> rfl
    · rfl
  · intro limits w r s' w' f fetched again
    exact .left _ _ (remaining_of_tryNext fetched (eventTurn_again again).2)

/-- Waiting for an event is gated by the client. -/
theorem nextEvent_gated (own : s.connection = k) :
    GatedUse k.client failure? (fun s => s.connection = k) s.nextEvent :=
  gated_of_rounds (fun _ => tryNext_gated) passes_eventTurn (fun s _ => .inr s.nextEvent_round)
    s own

/-! ## Draining change streams -/

/-- A stream of events waits for them one by one, and each takes an answer or was pending. -/
theorem stream_round (s : ChangeStream) : Round drainTurn s.nextEvent stream
    (fun s w => (w.remaining, if s.pending.isSome then 1 else 0)) s := by
  constructor
  · intro limits w
    rw [stream]
    unfold unrolled drainTurn
    rcases s.nextEvent limits w with ⟨_ | _ | event, s', w'⟩ <;> rfl
  · intro limits w r s' w' f pulled again
    rcases r with h | _ | event
    · cases again
    · cases again
    · rcases nextEvent_cases pulled with less | ⟨same, held, gone⟩
      · exact .left _ _ less
      · rw [same, held, gone]
        exact .right _ Nat.zero_lt_one

/-- A stream of events is gated by the client. -/
theorem stream_gated (own : s.connection = k) :
    GatedUse k.client (fun r => r.2.failure?) (fun s => s.connection = k) s.stream :=
  gated_of_rounds (fun _ => nextEvent_gated) (passes_drainTurn ChangeStream)
    (fun s _ => .inr s.stream_round) s own

/-- Taking one more event is waiting for it and then taking the rest. -/
theorem take_succ (count : Nat) (s : ChangeStream) :
    take (count + 1) s = unrolled drainTurn s.nextEvent (take count) := by
  funext limits w
  rw [take]
  unfold unrolled drainTurn
  rcases s.nextEvent limits w with ⟨_ | _ | event, s', w'⟩ <;> rfl

/-- Taking some events is gated by the client. -/
theorem take_gated (count : Nat) (own : s.connection = k) :
    GatedUse k.client (fun r => r.2.failure?) (fun s => s.connection = k) (take count s) := by
  induction count generalizing s with
  | zero => exact IsOver.gated ⟨([], .stopped), s, own, fun _ _ => rfl⟩
  | succ count ih =>
    rw [take_succ]
    exact gated_unrolled (nextEvent_gated own) (passes_drainTurn ChangeStream) fun _ => ih

/-! ## Closing -/

/-- A change stream that has been closed. -/
def emptied (s : ChangeStream) : ChangeStream :=
  { s with pending := none, state := .closed, streamId := none }

/-- The call that tells the remote side that a change stream is closed. -/
def farewell (s : ChangeStream) (id : String) : Action Reply :=
  s.connection.dispatch (some s.serial) (.bare "close") (s.origin.stateful .changeStream id)

/-- What closing comes to where the remote side is told. -/
def parted (s : ChangeStream) (r : Except Halt Reply) : Except Halt Unit × ChangeStream :=
  (r.map fun _ => (), s.emptied)

/-- What closing comes to once the close signal has fired. -/
def part (s : ChangeStream) (limits : Limits) (w : World) :
    Except Halt Unit × ChangeStream × World :=
  match s.streamId with
  | none => (.ok (), s.emptied, w)
  | some id => ((s.parted (s.farewell id limits w).1).1, (s.parted (s.farewell id limits w).1).2,
      (s.farewell id limits w).2)

/-- Telling the remote side that a stream is closed is gated by the client. -/
theorem part_gated (own : s.connection = k) :
    GatedUse k.client failure? (fun s => s.connection = k) s.part := by
  rcases held : s.streamId with _ | id
  · refine IsOver.gated ⟨.ok (), s.emptied, own, fun limits w => ?_⟩
    unfold part
    rw [held]
  · have same : s.part = fun limits w => ((s.parted (s.farewell id limits w).1).1,
        (s.parted (s.farewell id limits w).1).2, (s.farewell id limits w).2) := by
      unfold part
      rw [held]
    rw [same, ← own]
    refine GatedUse.ofAction (s.connection.dispatch_gated _ _ _) (fun _ => rfl) ?_
    intro r e failed
    unfold parted
    rw [failure?_map]
    exact failed

/-- Closing fires the close signal first. -/
theorem close_eq (s : ChangeStream) :
    s.close = fun limits w => s.part limits (w.fire s.serial) := by
  funext limits w
  unfold close part farewell
  rcases s.streamId with _ | id
  · rfl
  · dsimp only
    rcases s.connection.dispatch (some s.serial) (.bare "close")
      (s.origin.stateful .changeStream id) limits (w.fire s.serial) with ⟨_ | _, _⟩ <;> rfl

/-- Closing a change stream is gated by the client. -/
theorem close_gated (own : s.connection = k) :
    GatedUse k.client failure? (fun s => s.connection = k) s.close := by
  rw [close_eq]
  exact (part_gated own).fire s.serial

end ChangeStream

end RemoteDriver
