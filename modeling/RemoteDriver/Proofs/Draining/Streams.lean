import RemoteDriver.Proofs.ChangeStream.Calls
import RemoteDriver.Proofs.Draining.Cursors

/-!
# Draining change streams

A change stream is called for the next event, however many fetches that takes.  The last step of the
subscription, or a failure that is not one of time, is the last thing that a call exchanges
(`ChangeStream.wired`); a fetch that runs out of time is followed by another one.

The main statement, `drains_agree`, puts cursors and change streams side by side: streaming,
collecting and taking bring what calls one after the other bring, leave the same handle and the
same world, and so post the same requests; and nothing is posted after the exchange that ends the
handle.
-/

namespace RemoteDriver

open Bson (Document)

namespace ChangeStream

/-- What ends a change stream, and how it ends. -/
inductive Finishes (codec : Codec) (e : Exchange) : Except Halt Unit → Prop
  /-- The last step of the subscription. -/
  | last (seed : StreamSeed) (came : e.subscription? codec = some (.ok seed))
      (past : seed.alive = false) : Finishes codec e (.ok ())
  /-- A failure other than one of time, which is never what comes back. -/
  | failure (err : Error) (came : e.subscription? codec = some (.error err)) :
      Finishes codec e (.error (.failed err))

variable {s s' : ChangeStream} {limits : Limits} {w w' : World}

/-- A change stream at its end hands out what is pending and nothing more. -/
theorem nextEvent_spent (ended : s.state = .closed) (limits : Limits) (w : World) :
    (s.nextEvent limits w).1.map (fun _ => ()) = .ok ()
      ∧ (s.nextEvent limits w).2.1.state = .closed ∧ (s.nextEvent limits w).2.2 = w := by
  rw [s.nextEvent_round.unrolls, unrolled]
  rcases front : s.pending with _ | event
  · rw [tryNext_ended front ended]
    dsimp only [eventTurn]
    rw [if_pos ended]
    exact ⟨rfl, ended, rfl⟩
  · rw [tryNext_pending front]
    exact ⟨rfl, ended, rfl⟩

/-- Something comes back where an exchange ends the stream. -/
theorem Finishes.came {codec : Codec} {e : Exchange} {last : Except Halt Unit}
    (ends : Finishes codec e last) : e.subscription? codec ≠ none := by
  cases ends with
  | last seed came => simp [came]
  | failure err came => simp [came]

/-- A fetch whose exchange ends the stream is the last one of its call. -/
theorem Attempted.final {es : List Exchange} {r : Except Halt (Option Document)} {e : Exchange}
    {last : Except Halt Unit} (attempted : Attempted s limits w es r s' w') (member : e ∈ es)
    (ends : Finishes s.connection.codec e last) :
    es = [e] ∧ s'.state = .closed ∧ r.map (fun _ => ()) = last ∧ ¬ GoesOn r s' := by
  cases attempted with
  | pending | ended | signalled | idless | refused => cases member
  | answered seed asked came =>
    cases List.mem_singleton.mp member
    cases ends with
    | last seed' came' past =>
      cases came.symm.trans came'
      have closed : (s.continued seed).state = .closed := by simp [continued, past]
      refine ⟨rfl, closed, rfl, ?_⟩
      rintro (⟨_, isOpen⟩ | ⟨_, same, _⟩)
      · exact isOpen closed
      · cases same
    | failure err came' => cases came.symm.trans came'
  | failed err asked came =>
    cases List.mem_singleton.mp member
    cases ends with
    | last seed came' past => cases came.symm.trans came'
    | failure err' came' =>
      cases came.symm.trans came'
      refine ⟨rfl, rfl, rfl, ?_⟩
      rintro (⟨same, _⟩ | ⟨_, same, late⟩)
      · cases same
      · cases same
        exact Exchange.kind_subscription came late
  | interrupted asked nothing | late asked nothing | abandoned asked nothing =>
    cases List.mem_singleton.mp member
    exact absurd (Exchange.subscription?_of_nothing nothing) ends.came

/-- What a call sends, and how it comes to its end. -/
def Called (s : ChangeStream) (limits : Limits) (w : World)
    (called : Except Halt (Option Document) × ChangeStream × World) : Prop :=
  ∃ es, World.Sends (some s.serial) (s.endurance limits) w es called.2.2
    ∧ ∀ before e after last, es = before ++ e :: after → Finishes s.connection.codec e last →
      after = [] ∧ called.2.1.state = .closed ∧ called.1.map (fun _ => ()) = last

/-- A single fetch. -/
theorem called_tryNext (s : ChangeStream) (limits : Limits) (w : World) :
    s.Called limits w (s.tryNext limits w) := by
  obtain ⟨es, attempted⟩ := s.attempted limits w
  refine ⟨es, attempted.sends, fun before e after last split ends => ?_⟩
  obtain ⟨one, closed, same, _⟩ := attempted.final (by simp [split]) ends
  rw [split] at one
  exact ⟨by rcases before with _ | ⟨_, _ | _⟩ <;> simp_all, closed, same⟩

/-- A fetch after which it goes on, before the rest of a call. -/
theorem Called.cons {called : Except Halt (Option Document) × ChangeStream × World}
    {r : Except Halt (Option Document)} (fetched : s.tryNext limits w = (r, s', w'))
    (again : GoesOn r s') (rest : s'.Called limits w' called) : s.Called limits w called := by
  obtain ⟨es, attempted⟩ := s.attempted limits w
  rw [fetched] at attempted
  obtain ⟨connection, _, serial, timeout⟩ := attempted.same
  obtain ⟨fs, sends, told⟩ := rest
  rw [serial, endurance_eq serial timeout] at sends
  refine ⟨es ++ fs, attempted.sends.trans sends, fun before e after last split ends => ?_⟩
  have later : e ∉ es := fun member => (attempted.final member ends).2.2.2 again
  obtain ⟨more, rfl, tail⟩ : ∃ more, before = es ++ more ∧ fs = more ++ e :: after := by
    rcases List.append_eq_append_iff.mp split with ⟨more, rfl, tail⟩ | ⟨more, rfl, tail⟩
    · exact ⟨more, rfl, tail⟩
    · rcases more with _ | ⟨first, more⟩
      · exact ⟨[], by simp, tail.symm⟩
      · obtain ⟨rfl, _⟩ := List.cons.inj tail
        exact absurd (by simp) later
  exact told more e after last tail (connection ▸ ends)

/-- A row of fetches, of which the last one ends the call. -/
theorem called_nextEvent (s : ChangeStream) (limits : Limits) (w : World) :
    s.Called limits w (s.nextEvent limits w) :=
  nextEvent_induction (motive := fun s w r => s.Called limits w r)
    (fun {s _ w _ _} fetched _ => fetched ▸ s.called_tryNext limits w)
    (fun fetched again rest => rest.cons fetched again) s w

/-- A fetch changes neither the connection of a stream nor its number nor its bound on a fetch. -/
theorem same_tryNext {r : Except Halt (Option Document)}
    (fetched : s.tryNext limits w = (r, s', w')) :
    s'.connection = s.connection ∧ s'.serial = s.serial ∧ s'.timeout = s.timeout := by
  obtain ⟨es, attempted⟩ := s.attempted limits w
  rw [fetched] at attempted
  obtain ⟨connection, _, serial, timeout⟩ := attempted.same
  exact ⟨connection, serial, timeout⟩

/-- Neither does waiting for an event. -/
theorem same_nextEvent (s : ChangeStream) (limits : Limits) (w : World) :
    (s.nextEvent limits w).2.1.connection = s.connection
      ∧ (s.nextEvent limits w).2.1.serial = s.serial
      ∧ (s.nextEvent limits w).2.1.timeout = s.timeout := by
  refine nextEvent_induction (motive := fun s _ r => r.2.1.connection = s.connection
    ∧ r.2.1.serial = s.serial ∧ r.2.1.timeout = s.timeout)
    (fun fetched _ => same_tryNext fetched) (fun fetched _ rest => ?_) s w
  obtain ⟨connection, serial, timeout⟩ := same_tryNext fetched
  exact ⟨rest.1.trans connection, rest.2.1.trans serial, rest.2.2.trans timeout⟩

/-- What a change stream exchanges while it is drained. -/
theorem wired (first : ChangeStream) (limits : Limits) :
    Wired nextEvent limits (some first.serial) (first.endurance limits)
      (fun s => s.connection = first.connection ∧ s.serial = first.serial
        ∧ s.timeout = first.timeout)
      (fun s => s.state = .closed) (Finishes first.connection.codec) where
  stays s w own := by
    obtain ⟨connection, serial, timeout⟩ := s.same_nextEvent limits w
    exact ⟨connection.trans own.1, serial.trans own.2.1, timeout.trans own.2.2⟩
  sends s w own := by
    obtain ⟨connection, serial, timeout⟩ := own
    have called := s.called_nextEvent limits w
    unfold Called at called
    rwa [connection, serial, endurance_eq serial timeout] at called
  still s w _ ended := nextEvent_spent ended limits w

end ChangeStream

/-! ## All ways of draining -/

/-- All ways of draining a cursor or a change stream agree, in whatever state it is, under whatever
limits and whatever the remote side answers: a stream, the first items of a stream, and with
cursors a collection too, bring what calls one after the other bring up to the first that hands out
nothing.  They leave the same handle and the same world, and so post the same requests.  A drain
always ends, and nothing is posted after an exchange that ends the handle: for a cursor a part
without a token or a failure, for a change stream its last step or a failure that is not one of
time. -/
theorem drains_agree (limits : Limits) (w : World) :
    (∀ c : Cursor, ∃ ds last c' w',
        Drains Cursor.tryNext Cursor.stream Cursor.take limits (some c.serial)
            (fun _ => limits.deadline) (Cursor.Finishes c.connection.codec) c w ds last c' w'
          ∧ c.collect limits w = (last.map fun _ => ds, c', w'))
      ∧ ∀ s : ChangeStream, ∃ ds last s' w',
        Drains ChangeStream.nextEvent ChangeStream.stream ChangeStream.take limits (some s.serial)
          (s.endurance limits) (ChangeStream.Finishes s.connection.codec) s w ds last s' w' := by
  constructor
  · intro c
    obtain ⟨ds, last, c', w', drains⟩ := exists_drains Cursor.stream_round (fun _ _ _ => rfl)
      Cursor.take_succ (Cursor.wired limits c.connection c.serial) ⟨rfl, rfl⟩ w
    exact ⟨ds, last, c', w', drains, Cursor.collect_of_exhausts drains.exhausts⟩
  · intro s
    exact exists_drains ChangeStream.stream_round (fun _ _ _ => rfl) ChangeStream.take_succ
      (ChangeStream.wired s limits) ⟨rfl, rfl, rfl⟩ w

end RemoteDriver
