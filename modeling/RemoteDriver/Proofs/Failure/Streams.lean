import RemoteDriver.Proofs.ChangeStream.Calls
import RemoteDriver.Proofs.Failure.Cursors

/-!
# Failures of change streams

A change stream asks for one step after the other.  A fetch has no arguments, so it is refused only
if the client has been closed, and that does not change while the stream waits for an event.

Waiting goes on after a fetch that took too long.  The request of such a fetch has not failed,
although the fetch has; so where waiting ends in a failure, that is one of another kind
(`lasting?`), and the last request is to blame.
-/

namespace RemoteDriver

open Bson (Document Value)

namespace Exchange

variable {codec : Codec} {e : Exchange}

/-- What came back for a fetch is to blame for the failure of the subscription. -/
theorem blames_of_subscription {err : Error} (came : e.subscription? codec = some (.error err)) :
    e.Blames err := by
  obtain ⟨reply?, replied, reads⟩ := Option.map_eq_some_iff.mp came
  rcases reply? with err' | reply
  · cases reads
    exact blames_of_failure replied
  · obtain ⟨reason, rfl⟩ := isMisread_of_toStream reads
    exact blames_of_reply replied reason

/-- A step of a subscription is no failure. -/
theorem not_fails_of_subscription {seed : StreamSeed}
    (came : e.subscription? codec = some (.ok seed)) : ¬ e.Fails codec := by
  obtain ⟨reply?, replied, reads⟩ := Option.map_eq_some_iff.mp came
  rcases reply? with err | reply
  · cases reads
  · exact not_fails_of_reply replied

end Exchange

namespace ChangeStream

/-! ## Fetching -/

section fetches

variable {s s' origin : ChangeStream} {limits : Limits} {w w' : World} {es : List Exchange}
  {r : Except Halt (Option Document)} {closed : Bool}

/-- A fetch accounts for its failure; it is refused where the client has been closed. -/
theorem Attempted.course (h : Attempted s limits w es r s' w') :
    Course s.connection.codec (w.isClosed s.connection.client = true) es (failure? r) := by
  have sent {e : Exchange} {v : World} (asked : s.Asked limits w e v) :
      ¬ w.isClosed s.connection.client = true := by
    rw [asked.opened]
    exact Bool.false_ne_true
  cases h with
  | pending | ended | signalled | idless => exact course_nothing _ _
  | refused err _ _ _ shut usage => exact course_refused shut usage
  | answered seed asked came =>
    exact course_calm (sent asked) (Exchange.not_fails_of_subscription came)
  | failed err asked came =>
    exact course_blamed (sent asked) (Exchange.blames_of_subscription came)
  | interrupted asked nothing =>
    exact course_calm (sent asked) (Exchange.not_fails_of_nothing nothing)
  | late asked nothing =>
    have blames := Exchange.Blames.late nothing
    rw [asked.operation] at blames
    exact course_blamed (sent asked) blames
  | abandoned asked nothing =>
    exact course_calm (sent asked) (Exchange.not_fails_of_nothing nothing)

/-- What decides whether the requests of a change stream are refused and how long they are waited
for, and does not change while it asks for events. -/
structure Keeps (origin : ChangeStream) (closed : Bool) (s : ChangeStream) (w : World) : Prop where
  /-- Its connection. -/
  connection : s.connection = origin.connection
  /-- Its number. -/
  serial : s.serial = origin.serial
  /-- How long a fetch may take. -/
  timeout : s.timeout = origin.timeout
  /-- Whether its client has been closed. -/
  closed : w.isClosed origin.connection.client = closed

/-- A change stream keeps what it is made of as long as nothing is asked of it. -/
theorem keeps_self (s : ChangeStream) (w : World) :
    Keeps s (w.isClosed s.connection.client) s w := ⟨rfl, rfl, rfl, rfl⟩

/-- Asking for events accounts for its failure; the requests are refused where the client has been
closed. -/
abbrev Asks (origin : ChangeStream) (closed : Bool) (limits : Limits) :
    World → Option Error → World → Prop :=
  Ran origin.connection.codec (some origin.serial) (origin.endurance limits) (closed = true)

/-- Asking once for an event accounts for its failure. -/
theorem tryNext_uses (limits : Limits) (kept : Keeps origin closed s w) :
    Uses (Asks origin closed limits) (Keeps origin closed) failure? w (s.tryNext limits w) := by
  obtain ⟨es, attempted⟩ := s.attempted limits w
  obtain ⟨connection, _, serial, timeout⟩ := attempted.same
  have sends := attempted.sends
  have course := attempted.course
  -- all of these are told in terms of the stream that the use began with
  rw [kept.serial, endurance_eq kept.serial kept.timeout] at sends
  rw [kept.connection, kept.closed] at course
  refine ⟨⟨es, sends, course⟩, ⟨?_, ?_, ?_, ?_⟩⟩
  · exact connection.trans kept.connection
  · exact serial.trans kept.serial
  · exact timeout.trans kept.timeout
  · exact (sends.isClosed _).trans kept.closed

/-! ## Waiting for an event -/

/-- The failure of a fetch after which waiting for an event does not go on: one that took too long
is none. -/
def lasting? (r : Except Halt (Option Document)) : Option Error :=
  (failure? r).filter fun err => decide (err.kind ≠ .timeout)

/-- A fetch that took too long is no reason to give up waiting. -/
theorem lasting?_late {err : Error} (late : err.kind = .timeout) :
    lasting? (.error (.failed err)) = none := by
  simp [lasting?, failure?, late]

/-- Any other failure is a reason to give up waiting. -/
theorem lasting?_prompt {err : Error} (prompt : err.kind ≠ .timeout) :
    lasting? (.error (.failed err)) = some err := by
  simp [lasting?, failure?, prompt]

/-- A fetch that took too long does not count as failed. -/
theorem course_lasting {codec : Codec} {refusable : Prop}
    (course : Course codec refusable es (failure? r)) : Course codec refusable es (lasting? r) := by
  rcases r with (err | _) | event
  · by_cases late : err.kind = .timeout
    · rw [lasting?_late late]
      exact course.of_timeout late
    · rw [lasting?_prompt late]
      exact course
  · exact course
  · exact course

/-- Waiting for an event ends in the failure of the fetch that it stops at. -/
theorem tells_eventTurn : Tells lasting? failure? eventTurn := by
  constructor
  · rintro ((err | _) | _ | event) s a stops
    · unfold eventTurn at stops
      dsimp only at stops
      split at stops
      · cases stops
      · next prompt =>
        cases stops
        exact (lasting?_prompt prompt).symm
    · cases stops
      rfl
    · unfold eventTurn at stops
      dsimp only at stops
      split at stops <;> cases stops
      rfl
    · cases stops
      rfl
  · intro r s f again
    obtain ⟨rfl, ⟨rfl, _⟩ | ⟨err, rfl, late⟩⟩ := eventTurn_again again
    · exact ⟨rfl, fun _ => rfl⟩
    · exact ⟨lasting?_late late, fun _ => rfl⟩

/-- Waiting for an event accounts for its failure. -/
theorem nextEvent_uses (limits : Limits) (kept : Keeps origin closed s w) :
    Uses (Asks origin closed limits) (Keeps origin closed) failure? w (s.nextEvent limits w) := by
  refine uses_of_rounds Ran.trans tells_eventTurn ?_ nextEvent_round s w kept
  -- a round is accounted for without its timeout, since waiting goes on after one
  intro s w kept
  obtain ⟨⟨es, sends, course⟩, own⟩ := tryNext_uses limits kept
  exact ⟨⟨es, sends, course_lasting course⟩, own⟩

/-! ## Draining change streams -/

/-- A stream of events accounts for its failure. -/
theorem stream_uses (limits : Limits) (kept : Keeps origin closed s w) :
    Uses (Asks origin closed limits) (Keeps origin closed)
      (fun r : List Document × Ending => r.2.failure?) w (s.stream limits w) :=
  uses_of_rounds Ran.trans (tells_drainTurn ChangeStream) (fun _ _ => nextEvent_uses limits)
    stream_round s w kept

/-- Taking some events accounts for its failure. -/
theorem take_uses (count : Nat) (limits : Limits) (kept : Keeps origin closed s w) :
    Uses (Asks origin closed limits) (Keeps origin closed)
      (fun r : List Document × Ending => r.2.failure?) w (take count s limits w) := by
  induction count generalizing s w with
  | zero => exact ⟨ran_nothing _ _ _ _ _, kept⟩
  | succ count ih =>
    rw [take_succ]
    exact uses_unrolled Ran.trans (tells_drainTurn ChangeStream) (nextEvent_uses limits kept)
      fun _ _ _ _ _ _ kept => ih kept

end fetches

/-! ## Single operations -/

/-- The requests of a change stream account for a failure; those that ask for events are waited for
until the stream loses patience or is closed. -/
abbrev Tallies (s : ChangeStream) (deadline : Nat → Nat) : World → Option Error → World → Prop :=
  Accounted s.connection.codec (some s.serial) deadline

variable (s : ChangeStream) (limits : Limits) (w : World)

/-- The request of a single fetch accounts for a failure of it. -/
theorem tryNext_tallies : s.Tallies (s.endurance limits) w (failure? (s.tryNext limits w).1)
    (s.tryNext limits w).2.2 :=
  (tryNext_uses limits (s.keeps_self w)).obeys.accounted

/-- The requests of a wait account for a failure of it. -/
theorem nextEvent_tallies : s.Tallies (s.endurance limits) w (failure? (s.nextEvent limits w).1)
    (s.nextEvent limits w).2.2 :=
  (nextEvent_uses limits (s.keeps_self w)).obeys.accounted

/-- The request that closes a change stream accounts for a failure of it. -/
theorem close_tallies : s.Tallies (fun _ => limits.deadline) w (failure? (s.close limits w).1)
    (s.close limits w).2.2 := by
  have fires := w.still_fire s.serial
  rw [close_eq]
  unfold part
  dsimp only
  split
  · exact ⟨[], fires.had, accounts_nothing _⟩
  · next id held =>
    unfold parted
    rw [failure?_map]
    obtain ⟨es, had, accounts⟩ := s.connection.dispatch_accounted (some s.serial) (.bare "close")
      (s.origin.stateful .changeStream id) limits (w.fire s.serial)
    exact ⟨es, fires.had_of_had had, accounts⟩

/-- What a change stream itself makes of a call by name. -/
theorem answer_tallies (name : String) (args : List Value) (kwargs : Document) :
    s.Tallies ((Demand.invoke name args kwargs).patience s limits) w
      (failure? (s.answer name limits w).1) (s.answer name limits w).2.2 := by
  unfold answer
  dsimp only
  split
  · exact accounted_nothing _ _ _ _
  split
  · exact accounted_nothing _ _ _ _
  split
  · next named =>
    subst named
    have told := s.tryNext_tallies limits w
    generalize s.tryNext limits w = r at told
    obtain ⟨(err | _) | event, s', w'⟩ := r <;> exact told
  split
  · next named =>
    subst named
    have told := s.nextEvent_tallies limits w
    generalize s.nextEvent limits w = r at told
    obtain ⟨(err | _) | event, s', w'⟩ := r <;> exact told
  split
  · next named =>
    subst named
    have told := s.close_tallies limits w
    generalize s.close limits w = r at told
    obtain ⟨(err | _) | _, s', w'⟩ := r <;> exact told
  · exact accounted_misuse _ _ _ w rfl

/-- The requests of a call by name account for a failure of it. -/
theorem invoke_tallies (name : String) (args : List Value) (kwargs : Document) :
    s.Tallies ((Demand.invoke name args kwargs).patience s limits) w
      (failure? (s.invoke name args kwargs limits w).1)
      (s.invoke name args kwargs limits w).2.2 := by
  unfold invoke
  rcases resolved : s.gateway.resolve name args kwargs with err | _ | _
  · obtain ⟨message, rfl⟩ := Gateway.resolve_error resolved
    exact accounted_misuse _ _ _ w rfl
  · exact absurd resolved (s.resolve_ne_remote name args kwargs)
  · exact s.answer_tallies limits w name args kwargs

end ChangeStream

end RemoteDriver
