import RemoteDriver.Proofs.ChangeStream.Step

/-!
# What a call for an event comes to

A call on a change stream that nobody closes on this side, read off what went over the wire.
`comesTo` says what a call comes to that stops at a fetch, by what came back for it and by the time
at which it began; `Idle` says whether waiting for an event goes on after it.  A call that fetches
anything is a row of idle fetches and a last one, which decides its result (`Fetches`).

`Conduct` puts together what a call can do: the pending event is handed out, a stream at its end has
nothing to give, a closed client refuses, and in all other cases something is fetched.  So whoever
knows that a stream is open knows that a call on it asks the remote side.
-/

namespace RemoteDriver

open Bson (Document)

/-- Whether something came back after which a subscription is over: its last step, or a failure. -/
def Exchange.EndsStream (codec : Codec) (e : Exchange) : Prop :=
  ∃ r, e.subscription? codec = some r ∧ ∀ seed, r = .ok seed → seed.alive = false

/-- Where nothing comes back, a subscription goes on. -/
theorem Exchange.not_endsStream_of_none {codec : Codec} {e : Exchange}
    (nothing : e.subscription? codec = none) : ¬ e.EndsStream codec := by
  rintro ⟨r, came, _⟩
  cases nothing.symm.trans came

/-- A failure ends a subscription. -/
theorem Exchange.endsStream_of_error {codec : Codec} {e : Exchange} {err : Error}
    (failed : e.subscription? codec = some (.error err)) : e.EndsStream codec :=
  ⟨_, failed, fun _ step => nomatch step⟩

/-- A step ends a subscription just if it is the last one. -/
theorem Exchange.endsStream_iff_of_ok {codec : Codec} {e : Exchange} {step : StreamSeed}
    (came : e.subscription? codec = some (.ok step)) :
    e.EndsStream codec ↔ step.alive = false := by
  constructor
  · rintro ⟨r, brought, ends⟩
    exact ends step (Option.some.inj (brought.symm.trans came))
  · intro dead
    refine ⟨_, came, fun step' same => ?_⟩
    cases same
    exact dead

/-- A failure came back just if what came back is read as one. -/
theorem Exchange.failure?_eq_some_iff {codec : Codec} {e : Exchange} {err : Error} :
    e.failure? codec = some err ↔ e.subscription? codec = some (.error err) := by
  unfold failure?
  rcases e.subscription? codec with _ | (err' | step) <;> simp

namespace ChangeStream

open World (Sends)

/-- What is asked of a change stream that is not to be closed. -/
inductive Use
  /-- At most one fetch. -/
  | tryNext
  /-- The next event, whatever it takes. -/
  | nextEvent

/-- What a change stream makes of a use. -/
def Use.serve (s : ChangeStream) (limits : Limits) (w : World) :
    Use → Except Halt (Option Document) × ChangeStream × World
  | tryNext => s.tryNext limits w
  | nextEvent => s.nextEvent limits w

/-! ## Rows of fetches -/

section fetches

variable (connection : Connection) (serial : Nat) (limits : Limits) (w : World)

/-- Until when a fetch that begins at some time is waited for. -/
def waitsUntil (began : Nat) : Nat := min (began + connection.streamTimeout) limits.deadline

/-- The time at which a call that began in the world `w` has had some exchanges. -/
def timeAfter (es : List Exchange) : Nat :=
  (World.replay (some serial) (waitsUntil connection limits) (es.map (·.request)) w).2.now

/-- What a call comes to that stops at the fetch `e`, which it made after the exchanges `es`: the
event of a step, or a failure that came back.  Where nothing came back the fetch took too long,
unless the caller stopped waiting before that. -/
def comesTo (es : List Exchange) (e : Exchange) : Except Halt (Option Document) :=
  match e.subscription? connection.codec with
  | some (.ok step) => .ok step.event
  | some (.error err) => .error (.failed err)
  | none =>
    if timeAfter connection serial limits w es + connection.streamTimeout ≤ limits.deadline then
      .error (.failed (.timeout "try_next"))
    else .error .abandoned

/-- Whether waiting for an event goes on after the fetch `e`: it took too long, or it brought a step
without an event, and not the last one. -/
def Idle (es : List Exchange) (e : Exchange) : Prop :=
  comesTo connection serial limits w es e = .error (.failed (.timeout "try_next"))
    ∨ (comesTo connection serial limits w es e = .ok none ∧ ¬ e.EndsStream connection.codec)

/-- A call that has the fetches `idle` and then `e`, and that comes to `r`. -/
structure Fetches (use : Use) (idle : List Exchange) (e : Exchange)
    (r : Except Halt (Option Document)) : Prop where
  /-- The last fetch decides the result. -/
  result_eq : r = comesTo connection serial limits w idle e
  /-- Waiting goes on after each of the others. -/
  waited : ∀ before e', before ++ [e'] <+: idle → Idle connection serial limits w before e'
  /-- There are no others if at most one fetch is asked for. -/
  once : use = .tryNext → idle = []
  /-- Waiting for an event does not go on after the last one. -/
  stops : use = .nextEvent → ¬ Idle connection serial limits w idle e

variable {connection serial limits w} {idle es fs : List Exchange} {e : Exchange} {w' : World}

/-- No time passes without an exchange. -/
theorem timeAfter_nil : timeAfter connection serial limits w [] = w.now := rfl

/-- The time after some exchanges is that of the world which they lead to. -/
theorem timeAfter_append (sends : Sends (some serial) (waitsUntil connection limits) w es w')
    (fs : List Exchange) :
    timeAfter connection serial limits w (es ++ fs) = timeAfter connection serial limits w' fs := by
  have replayed : World.replay (some serial) (waitsUntil connection limits)
      (es.map (·.request)) w = (es, w') := sends
  unfold timeAfter
  rw [List.map_append, World.replay_append, replayed]

/-- A call that has had some exchanges goes on like one that begins where they lead to. -/
theorem comesTo_append (sends : Sends (some serial) (waitsUntil connection limits) w es w')
    (fs : List Exchange) (e : Exchange) : comesTo connection serial limits w (es ++ fs) e
      = comesTo connection serial limits w' fs e := by
  unfold comesTo
  rw [timeAfter_append sends]

/-- So it waits on after a fetch just if that one does. -/
theorem idle_append_iff (sends : Sends (some serial) (waitsUntil connection limits) w es w') :
    Idle connection serial limits w (es ++ fs) e ↔ Idle connection serial limits w' fs e := by
  unfold Idle
  rw [comesTo_append sends]

/-- A failure that came back is what the call comes to. -/
theorem comesTo_of_failure {err : Error} (failed : e.failure? connection.codec = some err) :
    comesTo connection serial limits w idle e = .error (.failed err) := by
  unfold comesTo
  rw [Exchange.failure?_eq_some_iff.mp failed]

/-- A call fails with what came back, or because it took too long. -/
theorem comesTo_eq_failed {err : Error}
    (fails : comesTo connection serial limits w idle e = .error (.failed err)) :
    e.failure? connection.codec = some err
      ∨ (e.subscription? connection.codec = none ∧ err = .timeout "try_next") := by
  unfold comesTo at fails
  rcases came : e.subscription? connection.codec with _ | (err' | step) <;> rw [came] at fails
  · dsimp only at fails
    split at fails <;> cases fails
    exact .inr ⟨rfl, rfl⟩
  · cases fails
    exact .inl (Exchange.failure?_eq_some_iff.mpr came)
  · cases fails

/-- A call fails for lack of time only if nothing came back. -/
theorem comesTo_eq_late {err : Error}
    (fails : comesTo connection serial limits w idle e = .error (.failed err))
    (late : err.kind = .timeout) :
    e.subscription? connection.codec = none ∧ err = .timeout "try_next" := by
  rcases comesTo_eq_failed fails with came | nothing
  · exact absurd late (Exchange.kind_subscription (Exchange.failure?_eq_some_iff.mp came))
  · exact nothing

/-- A call is given up only if nothing came back until its caller stopped waiting. -/
theorem comesTo_eq_abandoned
    (given : comesTo connection serial limits w idle e = .error .abandoned) :
    e.content = none ∧ limits.deadline
      < timeAfter connection serial limits w idle + connection.streamTimeout := by
  unfold comesTo at given
  rcases came : e.subscription? connection.codec with _ | (err | step) <;> rw [came] at given
  · dsimp only at given
    split at given
    · cases given
    · next past =>
      refine ⟨?_, Nat.lt_of_not_le past⟩
      exact Option.map_eq_none_iff.mp (Option.map_eq_none_iff.mp came)
  · cases given
  · cases given

/-- A fetch after which waiting goes on does not end the subscription. -/
theorem Idle.not_endsStream (idle : Idle connection serial limits w es e) :
    ¬ e.EndsStream connection.codec := by
  rcases idle with late | ⟨_, live⟩
  · exact Exchange.not_endsStream_of_none (comesTo_eq_late late rfl).1
  · exact live

/-- A fetch after which waiting goes on has brought no failure. -/
theorem Idle.failure?_eq_none (idle : Idle connection serial limits w es e) :
    e.failure? connection.codec = none := by
  rcases failed : e.failure? connection.codec with _ | err
  · rfl
  · exact absurd (Exchange.endsStream_of_error (Exchange.failure?_eq_some_iff.mp failed))
      idle.not_endsStream

/-- A single fetch, for whoever asks for at most one. -/
theorem fetches_tryNext (e : Exchange) : Fetches connection serial limits w .tryNext [] e
    (comesTo connection serial limits w [] e) where
  result_eq := rfl
  waited before e' first := by simp at first
  once _ := rfl
  stops no := nomatch no

/-- Waiting for an event that stops at the first fetch. -/
theorem fetches_of_stops (stops : ¬ Idle connection serial limits w [] e) :
    Fetches connection serial limits w .nextEvent [] e
      (comesTo connection serial limits w [] e) where
  result_eq := rfl
  waited before e' first := by simp at first
  once _ := rfl
  stops _ := stops

/-- Waiting for an event that goes on after a first fetch. -/
theorem Fetches.cons {first : Exchange} {r : Except Halt (Option Document)}
    (sends : Sends (some serial) (waitsUntil connection limits) w [first] w')
    (goesOn : Idle connection serial limits w [] first)
    (rest : Fetches connection serial limits w' .nextEvent idle e r) :
    Fetches connection serial limits w .nextEvent (first :: idle) e r where
  result_eq := rest.result_eq.trans (comesTo_append sends idle e).symm
  waited before e' front := by
    rcases before with _ | ⟨head, before⟩
    · obtain ⟨rfl, _⟩ := List.cons_prefix_cons.mp front
      exact goesOn
    · obtain ⟨rfl, later⟩ := List.cons_prefix_cons.mp front
      exact (idle_append_iff sends).mpr (rest.waited before e' later)
  once no := nomatch no
  stops _ waits := rest.stops rfl ((idle_append_iff sends).mp waits)

end fetches

/-! ## Conducts of calls -/

/-- What a call on a change stream asks for, and what it comes to. -/
inductive Conduct (connection : Connection) (serial : Nat) (s : ChangeStream) (limits : Limits)
    (w : World) (use : Use) : List Exchange → Except Halt (Option Document) → Prop
  /-- The pending event is handed out. -/
  | pending (event : Document) (held : s.pending = some event) :
      Conduct connection serial s limits w use [] (.ok (some event))
  /-- The stream has ended. -/
  | ended (none : s.pending = none) (atEnd : s.state = .closed) :
      Conduct connection serial s limits w use [] (.ok .none)
  /-- The client has been closed. -/
  | refused (none : s.pending = none) (isOpen : s.state ≠ .closed)
      (closed : w.isClosed connection.client = true) :
      Conduct connection serial s limits w use []
        (.error (.failed (Connection.closedError "try_next")))
  /-- Something is fetched. -/
  | fetched (none : s.pending = none) (isOpen : s.state ≠ .closed)
      (serves : w.isClosed connection.client = false) (idle : List Exchange) (e : Exchange)
      (r : Except Halt (Option Document))
      (fetches : Fetches connection serial limits w use idle e r) :
      Conduct connection serial s limits w use (idle ++ [e]) r

section conduct

variable {connection : Connection} {serial : Nat} {s s' : ChangeStream} {limits : Limits}
  {w w' : World} {use : Use} {es : List Exchange} {r : Except Halt (Option Document)}

/-- A pending event is handed out, and nothing is asked for. -/
theorem Conduct.of_pending (conduct : Conduct connection serial s limits w use es r)
    {event : Document} (held : s.pending = some event) : es = [] ∧ r = .ok (some event) := by
  cases conduct with
  | pending event' held' =>
    cases held.symm.trans held'
    exact ⟨rfl, rfl⟩
  | ended none | refused none | fetched none => cases held.symm.trans none

/-- At its end a stream has nothing to give, and nothing is asked for. -/
theorem Conduct.of_ended (conduct : Conduct connection serial s limits w use es r)
    (none : s.pending = none) (atEnd : s.state = .closed) : es = [] ∧ r = .ok .none := by
  cases conduct with
  | pending event held => cases none.symm.trans held
  | ended => exact ⟨rfl, rfl⟩
  | refused _ isOpen | fetched _ isOpen => exact absurd atEnd isOpen

/-- Before its end a stream is refused by a closed client, and nothing is asked for. -/
theorem Conduct.of_refused (conduct : Conduct connection serial s limits w use es r)
    (none : s.pending = none) (isOpen : s.state ≠ .closed)
    (closed : w.isClosed connection.client = true) :
    es = [] ∧ r = .error (.failed (Connection.closedError "try_next")) := by
  cases conduct with
  | pending event held => cases none.symm.trans held
  | ended _ atEnd => exact absurd atEnd isOpen
  | refused => exact ⟨rfl, rfl⟩
  | fetched _ _ serves => cases closed.symm.trans serves

/-- Before its end and on an open client a stream fetches. -/
theorem Conduct.of_open (conduct : Conduct connection serial s limits w use es r)
    (none : s.pending = none) (isOpen : s.state ≠ .closed)
    (serves : w.isClosed connection.client = false) :
    ∃ idle e, es = idle ++ [e] ∧ Fetches connection serial limits w use idle e r := by
  cases conduct with
  | pending event held => cases none.symm.trans held
  | ended _ atEnd => exact absurd atEnd isOpen
  | refused _ _ closed => cases closed.symm.trans serves
  | fetched _ _ _ idle e _ fetches => exact ⟨idle, e, rfl, fetches⟩

/-- A call that fetches at most once goes like one that waits for an event and stops there. -/
theorem Conduct.stop (conduct : Conduct connection serial s limits w .tryNext es r)
    (stops : ∀ e, es = [e] → ¬ Idle connection serial limits w [] e) :
    Conduct connection serial s limits w .nextEvent es r := by
  cases conduct with
  | pending event held => exact .pending event held
  | ended none atEnd => exact .ended none atEnd
  | refused none isOpen closed => exact .refused none isOpen closed
  | fetched none isOpen serves idle e _ fetches =>
    cases fetches.once rfl
    rw [fetches.result_eq]
    exact .fetched none isOpen serves [] e _ (fetches_of_stops (stops e rfl))

/-- Waiting for an event goes on after a fetch like a call on what that fetch leaves. -/
theorem Conduct.cons {first : Exchange} (none : s.pending = none) (isOpen : s.state ≠ .closed)
    (serves : w.isClosed connection.client = false)
    (sends : Sends (some serial) (waitsUntil connection limits) w [first] w')
    (goesOn : Idle connection serial limits w [] first) (taken : s'.pending = .none)
    (live : s'.state ≠ .closed) (rest : Conduct connection serial s' limits w' .nextEvent es r) :
    Conduct connection serial s limits w .nextEvent (first :: es) r := by
  cases rest with
  | pending event held => cases taken.symm.trans held
  | ended _ atEnd => exact absurd atEnd live
  | refused _ _ closed =>
    rw [sends.isClosed, serves] at closed
    cases closed
  | fetched _ _ _ idle e _ fetches =>
    exact .fetched none isOpen serves (first :: idle) e r (fetches.cons sends goesOn)

/-- A call that exchanges anything finds no event pending, the stream open and the client open. -/
theorem Conduct.fetches_of_mem (conduct : Conduct connection serial s limits w use es r)
    {e : Exchange} (member : e ∈ es) : s.pending = none ∧ s.state ≠ .closed
      ∧ w.isClosed connection.client = false := by
  cases conduct with
  | pending | ended | refused => cases member
  | fetched none isOpen serves => exact ⟨none, isOpen, serves⟩

/-- A failure that comes back is what the call comes to. -/
theorem Conduct.surfaced (conduct : Conduct connection serial s limits w use es r) {e : Exchange}
    {err : Error} (member : e ∈ es) (failed : e.failure? connection.codec = some err) :
    r = .error (.failed err) := by
  cases conduct with
  | pending | ended | refused => cases member
  | fetched _ _ _ idle last _ fetches =>
    rcases List.mem_append.mp member with early | late
    · obtain ⟨before, after, rfl⟩ := List.append_of_mem early
      have waited := fetches.waited before e ⟨after, by simp⟩
      cases waited.failure?_eq_none.symm.trans failed
    · cases List.mem_singleton.mp late
      exact fetches.result_eq.trans (comesTo_of_failure failed)

/-- A call fails with what came back, because it took too long, or because the client has been
closed. -/
theorem Conduct.caused (conduct : Conduct connection serial s limits w use es r) {err : Error}
    (fails : r = .error (.failed err)) : err.kind = .timeout
      ∨ (err = Connection.closedError "try_next" ∧ w.isClosed connection.client = true)
      ∨ ∃ e ∈ es, e.failure? connection.codec = some err := by
  cases conduct with
  | pending | ended => cases fails
  | refused _ _ closed =>
    cases fails
    exact .inr (.inl ⟨rfl, closed⟩)
  | fetched _ _ _ idle last _ fetches =>
    rcases comesTo_eq_failed (fetches.result_eq.symm.trans fails) with came | ⟨_, rfl⟩
    · exact .inr (.inr ⟨last, by simp, came⟩)
    · exact .inl rfl

/-- Waiting for an event never takes too long. -/
theorem Conduct.patient
    (conduct : Conduct connection serial s limits w .nextEvent es r) {err : Error}
    (fails : r = .error (.failed err)) : err.kind ≠ .timeout := by
  intro late
  cases conduct with
  | pending | ended => cases fails
  | refused =>
    cases fails
    cases late
  | fetched _ _ _ idle last _ fetches =>
    have came := fetches.result_eq.symm.trans fails
    obtain ⟨_, rfl⟩ := comesTo_eq_late came late
    exact fetches.stops rfl (.inl came)

/-- Waiting for an event comes to nothing only at the end. -/
theorem Conduct.lasting (conduct : Conduct connection serial s limits w .nextEvent es r)
    (none : r = .ok none) :
    s.state = .closed ∨ ∃ e ∈ es, e.EndsStream connection.codec := by
  cases conduct with
  | pending | refused => cases none
  | ended _ atEnd => exact .inl atEnd
  | fetched _ _ _ idle last _ fetches =>
    have came := fetches.result_eq.symm.trans none
    refine .inr ⟨last, by simp, Classical.byContradiction fun live => ?_⟩
    exact fetches.stops rfl (.inr ⟨came, live⟩)

/-- A call is given up only when its caller stops waiting. -/
theorem Conduct.givenUp (conduct : Conduct connection serial s limits w use es r)
    (sends : Sends (some serial) (waitsUntil connection limits) w es w')
    (given : r = .error .abandoned) :
    limits.deadline ≤ timeAfter connection serial limits w es := by
  cases conduct with
  | pending | ended | refused => cases given
  | fetched _ _ _ idle last _ fetches =>
    obtain ⟨nothing, past⟩ := comesTo_eq_abandoned (fetches.result_eq.symm.trans given)
    obtain ⟨began, before, final⟩ := sends.exists_of_snoc
    have start : timeAfter connection serial limits w idle = began.now := by
      have same := timeAfter_append before []
      rwa [List.append_nil] at same
    have finish : timeAfter connection serial limits w (idle ++ [last]) = w'.now := by
      have same := timeAfter_append sends []
      rwa [List.append_nil] at same
    have waited := final.now_of_nothing nothing
    unfold waitsUntil at waited
    omega

end conduct

end ChangeStream

end RemoteDriver
