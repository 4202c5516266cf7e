import RemoteDriver.Proofs.ChangeStream.Lifecycle

/-!
# Subscriptions that the remote side has ended

A step that is not alive, a failure that comes back and a fetch that is refused all let a
subscription go (`Attempted.ends`, `Attempted.fails`), whether the fetch is made alone or while an
event is waited for (`EndsIn.released`): the stream is closed and holds no token.  From then on it
stays so and sends nothing (`released_lived`), and up to then nobody has been told that it is
closed, since a stream that was closed fetches nothing (`farewells_of_open`).

The main statement is `ended_subscription_is_let_go`.  It speaks of what comes back for fetches.
The reply that opens a stream may say too that no more will come; then the stream is closed from the
first, but keeps the token that came along, and closing it sends one request with it.
-/

namespace RemoteDriver

open Bson (Document Value)

namespace ChangeStream

/-! ## Letting go -/

/-- The stream is closed and holds no token. -/
def Released (s : ChangeStream) : Prop := s.state = .closed ∧ s.streamId = none

section attempted

variable {s s' : ChangeStream} {limits : Limits} {w w' : World} {es : List Exchange}
  {r : Except Halt (Option Document)}

/-- What ends a subscription comes back to an open stream, and the stream lets go. -/
theorem Attempted.ends (h : Attempted s limits w es r s' w') {e : Exchange} (member : e ∈ es)
    (ends : e.EndsStream s.connection.codec) : s.state ≠ .closed ∧ s'.Released := by
  refine ⟨(h.asked member).isOpen, ?_⟩
  obtain ⟨given, brought, last⟩ := ends
  cases h with
  | pending | ended | signalled | idless | refused => cases member
  | failed => exact ⟨rfl, rfl⟩
  | answered seed _ came =>
    cases List.mem_singleton.mp member
    have dead := last seed (Option.some.inj (brought.symm.trans came))
    unfold continued Released
    rw [dead]
    exact ⟨rfl, rfl⟩
  | interrupted _ nothing | late _ nothing | abandoned _ nothing =>
    cases List.mem_singleton.mp member
    cases brought.symm.trans (Exchange.subscription?_of_nothing nothing)

/-- A fetch fails on an open stream only, and the stream lets go. -/
theorem Attempted.fails {err : Error} (h : Attempted s limits w es r s' w')
    (fails : r = .error (.failed err)) (prompt : err.kind ≠ .timeout) :
    s.state ≠ .closed ∧ s'.Released := by
  refine ⟨?_, h.failing fails prompt⟩
  cases h with
  | pending | ended | signalled | idless | answered | interrupted | abandoned => cases fails
  | refused _ _ isOpen => exact isOpen
  | failed _ asked | late asked => exact asked.isOpen

/-- A stream that has let go stays so. -/
theorem Attempted.released (h : Attempted s limits w es r s' w') (released : s.Released) :
    s'.Released := by
  obtain ⟨_, still, same, _⟩ := h.closed released.1
  exact ⟨still, same.trans released.2⟩

end attempted

/-- A closed stream stays closed. -/
theorem Served.stays_closed {s s' : ChangeStream} {o : Occasion Demand} {w' : World}
    {es : List Exchange} {r : Except Halt Result} (served : Served s o es r s' w')
    (closed : s.state = .closed) : s'.state = .closed := by
  rcases served.asks with ⟨kept, _⟩ | ⟨closes, _⟩
  · exact (served.closed closed kept).2.1
  · rw [(served.emptied closes).1]
    rfl

/-- A closed stream stays closed, whatever is asked of it. -/
theorem closed_lived {s : ChangeStream} (closed : s.state = .closed) (os : List (Occasion Demand)) :
    (lived entry s os).state = .closed :=
  lived_keeps (P := fun c : ChangeStream => c.state = .closed)
    (fun c o _ => (c.entry_served o).stays_closed) closed

section row

variable {s s' : ChangeStream} {limits : Limits} {w w' : World} {os : List (Occasion Demand)}
  {r : Except Halt (Option Document)}

/-- The same of what comes back while an event is waited for. -/
theorem Row.ends (row : Row s limits w os r s' w') {e : Exchange}
    (member : e ∈ exchanged (life entry s os)) (ends : e.EndsStream s.connection.codec) :
    s.state ≠ .closed ∧ s'.Released := by
  refine ⟨fun closed => ?_, ?_⟩
  · rw [(row.closed closed).1] at member
    cases member
  · obtain ⟨before, o, after, split, asked⟩ := exists_of_mem_exchanged member
    have tries (o : Occasion Demand) (member : o ∈ os) : o.demand = .tryNext :=
      (row.tries o member).1
    subst split
    obtain ⟨q, _, attempted⟩ := (lived entry s before).entry_attempted (tries o (by simp))
    rw [← (same_lived s before).1] at ends
    have released := (attempted.ends asked ends).2
    rw [← row.after, lived_append, lived]
    refine lived_keeps (fun c o member released => ?_) released
    obtain ⟨q, _, attempted⟩ := c.entry_attempted (tries o (by simp [member]))
    exact attempted.released released

/-- A failure of waiting is none of time. -/
theorem Row.fails {err : Error} (row : Row s limits w os r s' w')
    (fails : r = .error (.failed err)) : s.state ≠ .closed ∧ s'.Released := by
  have prompt : err.kind ≠ .timeout := fun late => row.stops (.inr ⟨err, fails, late⟩)
  obtain ⟨init, _, _, _, attempted⟩ := row.final
  obtain ⟨isOpen, released⟩ := attempted.fails fails prompt
  exact ⟨fun closed => isOpen (closed_lived closed init), released⟩

end row

/-! ## Calls in which a subscription ends -/

/-- The subscription ends in a call: something comes back for a fetch after which it is over, or a
fetch fails for another reason than time. -/
def EndsIn (s : ChangeStream) (o : Occasion Demand) : Prop :=
  (∃ e ∈ (s.entry o).exchanges, e.request.envelope.operation = "try_next"
      ∧ e.EndsStream s.connection.codec)
    ∨ ((o.demand.Tries s ∨ o.demand.Waits s)
      ∧ ∃ err, (s.entry o).result = .error (.failed err) ∧ err.kind ≠ .timeout)

/-- A subscription ends on an open stream, which is not being closed, and the stream lets go. -/
theorem EndsIn.released {s : ChangeStream} {o : Occasion Demand} (ends : s.EndsIn o) :
    s.state ≠ .closed ∧ ¬ o.demand.Closes s ∧ (s.entry o).after.Released := by
  have served := s.entry_served o
  unfold EndsIn at ends
  generalize (s.entry o).exchanges = es, (s.entry o).result = r, (s.entry o).after = s',
    (s.entry o).left = w' at served ends
  rcases ends with ⟨e, member, asks, ends⟩ | ⟨fetches, err, fails, prompt⟩
  · cases served with
    | still | timed => cases member
    | tried _ _ kept attempt =>
      obtain ⟨isOpen, released⟩ := attempt.ends member ends
      exact ⟨isOpen, kept, released⟩
    | waited _ _ kept row =>
      obtain ⟨isOpen, released⟩ := row.ends member ends
      exact ⟨isOpen, kept, released⟩
    | parted _ _ _ parting =>
      obtain ⟨_, _, _, request⟩ := parting.asks member
      rw [request] at asks
      exact absurd asks (show "close" ≠ "try_next" by decide)
  · cases served with
    | still idle brisk | timed _ idle brisk | parted idle brisk =>
      rcases fetches with tries | waits
      · exact absurd tries idle
      · exact absurd waits brisk
    | tried _ _ kept attempt =>
      obtain ⟨isOpen, released⟩ := attempt.fails (failed_of_map fails) prompt
      exact ⟨isOpen, kept, released⟩
    | waited _ _ kept row =>
      obtain ⟨isOpen, released⟩ := row.fails (failed_of_map fails)
      exact ⟨isOpen, kept, released⟩

/-! ## Who is told -/

/-- A stream that has let go stays so and sends nothing, whatever is asked of it. -/
theorem released_lived {s : ChangeStream} (released : s.Released) (os : List (Occasion Demand)) :
    (lived entry s os).Released ∧ exchanged (life entry s os) = [] := by
  have step (c : ChangeStream) (o : Occasion Demand) (released : c.Released) :
      (c.entry o).exchanges = [] ∧ (c.entry o).after.Released :=
    (c.entry_served o).silent released.1 released.2
  exact ⟨lived_keeps (fun c o _ released => (step c o released).2) released,
    silent_life (fun c o _ released => step c o released) released⟩

/-- A call that does not close a stream tells nobody that it is closed. -/
theorem farewells_of_kept {s : ChangeStream} {o : Occasion Demand} (kept : ¬ o.demand.Closes s) :
    farewells (s.entry o).exchanges = [] := by
  rcases (s.entry_served o).asks with ⟨_, asks⟩ | ⟨closes, _⟩
  · exact farewells_of_asks (by decide) fun e member => (asks e member).1
  · exact absurd closes kept

/-- As long as a stream is open, nobody has been told that it is closed. -/
theorem farewells_of_open {s : ChangeStream} {os : List (Occasion Demand)}
    (isOpen : (lived entry s os).state ≠ .closed) :
    farewells (exchanged (life entry s os)) = [] := by
  induction os generalizing s with
  | nil => rfl
  | cons o os ih =>
    have kept : ¬ o.demand.Closes s := fun closes => by
      have emptied := ((s.entry_served o).emptied closes).1
      exact isOpen (closed_lived (by rw [emptied]; rfl) os)
    rw [life, exchanged_cons, farewells_append, farewells_of_kept kept, ih isOpen]
    rfl

/-- Once its subscription has ended in a call, a stream holds no token, and nobody is ever told that
it is closed. -/
theorem let_go_of_endsIn (s : ChangeStream) (before : List (Occasion Demand)) (o : Occasion Demand)
    (after : List (Occasion Demand)) (ends : (lived entry s before).EndsIn o) :
    (lived entry s (before ++ o :: after)).streamId = none
      ∧ farewells (exchanged (life entry s (before ++ o :: after))) = [] := by
  obtain ⟨isOpen, kept, released⟩ := ends.released
  obtain ⟨still, silent⟩ := released_lived released after
  refine ⟨?_, ?_⟩
  · rw [lived_append]
    exact still.2
  · rw [exchanged_split, silent, List.append_nil, farewells_append, farewells_of_open isOpen,
      farewells_of_kept kept]
    rfl

/-! ## Streams without a subscription -/

/-- As long as it is not closed, a stream that had no more to come from the first keeps its token
and sends nothing. -/
theorem idle_lived {s : ChangeStream} (closed : s.state = .closed) {os : List (Occasion Demand)}
    (stays : NeverCloses Demand.Closes os) :
    (lived entry s os).streamId = s.streamId ∧ exchanged (life entry s os) = [] := by
  have step (c : ChangeStream) (o : Occasion Demand) (member : o ∈ os)
      (idle : c.state = .closed ∧ c.streamId = s.streamId) : (c.entry o).exchanges = []
        ∧ (c.entry o).after.state = .closed ∧ (c.entry o).after.streamId = s.streamId := by
    obtain ⟨silent, still, same⟩ := (c.entry_served o).closed idle.1 (stays o member c)
    exact ⟨silent, still, same.trans idle.2⟩
  have start : s.state = .closed ∧ s.streamId = s.streamId := ⟨closed, rfl⟩
  exact ⟨(lived_keeps (fun c o member idle => (step c o member idle).2) start).2,
    silent_life step start⟩

/-- What closing sends on an open client, where a token is held. -/
theorem close_of_held {s : ChangeStream} {o : Occasion Demand} {id : String}
    (closes : o.demand.Closes s) (held : s.streamId = some id)
    (isOpen : o.world.isClosed s.connection.client = false) : ∃ e, (s.entry o).exchanges = [e]
      ∧ e.request = s.connection.request ⟨"close", [], [], s.origin.stateful .changeStream id⟩ := by
  rcases (s.entry_served o).asks with ⟨kept, _⟩ | ⟨_, parting⟩
  · exact absurd closes kept
  · rcases parting with ⟨_, none | closed⟩ | ⟨id', e, held', _, request, one⟩
    · cases held.symm.trans none
    · cases isOpen.symm.trans closed
    · cases held.symm.trans held'
      exact ⟨e, one, request⟩

/-- A subscription that the remote side has ended is let go, from any seed and by any calls, given
up or not, whatever comes back for their requests and whenever the close signal fires or the client
is closed.  Once something has come back for a fetch after which the subscription is over, or a
fetch has failed for another reason than time, the stream holds no token, and nobody is ever told
that it is closed.  The same holds from the first of a stream that was opened without more to come
and without a token.  One that was opened without more to come, but with a token, holds that token
until it is closed, and closing it on an open client posts one request with it. -/
theorem ended_subscription_is_let_go (connection : Connection) (origin : Route) (serial : Nat)
    (seed : StreamSeed) :
    let s := ofSeed connection origin serial seed
    (∀ before o after, (lived entry s before).EndsIn o →
        (lived entry s (before ++ o :: after)).streamId = none
          ∧ farewells (exchanged (life entry s (before ++ o :: after))) = [])
      ∧ (seed.alive = false → seed.streamId = none → ∀ os,
        (lived entry s os).streamId = none ∧ farewells (exchanged (life entry s os)) = [])
      ∧ (seed.alive = false → ∀ id, seed.streamId = some id →
        ∀ os, NeverCloses Demand.Closes os → (lived entry s os).streamId = some id
          ∧ exchanged (life entry s os) = []
          ∧ ∀ o, o.demand.Closes (lived entry s os) →
            o.world.isClosed connection.client = false →
              ∃ e, ((lived entry s os).entry o).exchanges = [e] ∧ e.request
                = connection.request ⟨"close", [], [], origin.stateful .changeStream id⟩) := by
  intro s
  have ended (dead : seed.alive = false) : s.state = .closed := by
    unfold s ofSeed
    rw [dead]
    rfl
  refine ⟨s.let_go_of_endsIn, fun dead none os => ?_, fun dead id held os stays => ?_⟩
  · obtain ⟨still, silent⟩ := released_lived (s := s) ⟨ended dead, none⟩ os
    exact ⟨still.2, by rw [silent]; rfl⟩
  · obtain ⟨same, silent⟩ := idle_lived (ended dead) stays
    have kept : (lived entry s os).streamId = some id := same.trans held
    obtain ⟨connection_eq, origin_eq⟩ := s.same_lived os
    refine ⟨kept, silent, fun o closes isOpen => ?_⟩
    have one := close_of_held closes kept (by rw [connection_eq]; exact isOpen)
    rw [connection_eq, origin_eq] at one
    exact one

/-- A stream whose second step is not alive. -/
theorem last_step_is_let_go :
    let endpoint : Endpoint := ⟨⟨[], none, .bare [], none, none⟩, []⟩
    let connection : Connection := ⟨0, endpoint, .relaxed, 30000⟩
    let s := ofSeed connection .client 0 ⟨some "s", none, none, true⟩
    let step (alive : Bool) : Json := .object [("kind", .string "stream"),
      ("payload", .object [("stream_id", .string "t"), ("alive", .boolean alive)])]
    let o (alive : Bool) : Occasion Demand :=
      ⟨.tryNext, ⟨10, none⟩, World.start (.ofScript [("try_next", ⟨some (.body (step alive)), 0⟩)])⟩
    let bye : Occasion Demand := ⟨.close, ⟨10, none⟩, World.start (.ofScript [])⟩
    let os := [o true, o false, bye]
    (lived entry s os).streamId = none ∧ farewells (exchanged (life entry s os)) = [] := by
  intro endpoint connection s step o bye os
  have ends : (lived entry s [o true]).EndsIn (o false) := by
    refine .inl ⟨⟨connection.request ⟨"try_next", [], [], Route.client.stateful .changeStream "t"⟩,
      some (.body (step false))⟩, ?_, rfl, .ok ⟨some "t", none, none, false⟩, rfl, ?_⟩
    · exact List.mem_singleton.mpr rfl
    · rintro seed ⟨⟩
      rfl
  exact (ended_subscription_is_let_go connection .client 0 ⟨some "s", none, none, true⟩).1
    [o true] (o false) [bye] ends

/-- A stream that is opened without more to come, but with a token, holds that token, and the remote
side is told when it is closed. -/
theorem token_of_an_ended_seed_is_held :
    let endpoint : Endpoint := ⟨⟨[], none, .bare [], none, none⟩, []⟩
    let connection : Connection := ⟨0, endpoint, .relaxed, 30000⟩
    let s := ofSeed connection .client 0 ⟨some "s", none, none, false⟩
    s.streamId = some "s"
      ∧ (farewells (s.entry ⟨.close, ⟨10, none⟩, World.start (.ofScript [])⟩).exchanges).length
        = 1 := by
  decide +kernel

end ChangeStream

end RemoteDriver
