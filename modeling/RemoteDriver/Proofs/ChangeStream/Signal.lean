import RemoteDriver.Proofs.ChangeStream.Step
import RemoteDriver.Proofs.Closing.Streams

/-!
# Fetches and the close signal

What a single fetch comes to whether or not the close signal of its stream fires.  A signal that has
fired before the fetch keeps it from being posted; one that fires while it is under way breaks it
off, unless the fetch runs out of time first.  What is broken off does not fail: it comes to no
event and an ended stream, which still holds its token.  `attempted` lists all that can happen.
-/

namespace RemoteDriver

open Bson (Document Value)

namespace World

/-- A close signal that fires changes nothing about what goes over the wire. -/
theorem exchanges_fire (sender : Sender) (deadline : Nat → Nat) (w w' : World) (serial : Nat) :
    exchanges sender deadline w w' = exchanges sender deadline (w.fire serial) w' := by
  have same : (w.fire serial).posted = w.posted ∧ (w.fire serial).remote = w.remote
      ∧ (w.fire serial).now = w.now := by
    unfold fire
    split <;> exact ⟨rfl, rfl, rfl⟩
  unfold exchanges
  rw [same.1]
  exact (replay_congr sender deadline same.2.1.symm same.2.2.symm _).1

/-- The world with a close signal fired. -/
theorem hasFired_fire (w : World) (serial : Nat) : (w.fire serial).hasFired serial = true := by
  unfold fire
  split
  · next fired => exact fired
  · simp [hasFired]

end World

namespace ChangeStream

open World (Sends)

/-! ## Fetches that may be broken off -/

/-- Whether the close signal fires while a fetch that begins at some time may still be under way. -/
def Breaks (s : ChangeStream) (limits : Limits) (now : Nat) : Prop :=
  ∃ time, s.closingTime limits = some time ∧ max now time ≤ limits.deadline

/-- The limits of a fetch that begins at some time: it ends at the latest when the close signal
fires. -/
def cut (s : ChangeStream) (limits : Limits) (now : Nat) : Limits :=
  match s.closingTime limits with
  | some time => { limits with deadline := min limits.deadline (max now time) }
  | none => limits

/-- Until when a fetch that begins at some time and may be broken off is waited for. -/
def endurance (s : ChangeStream) (limits : Limits) (now : Nat) : Nat :=
  s.patience (s.cut limits now) now

/-- Whether a fetch that brought nothing was broken off: the close signal fired while it was under
way, and the fetch had time left. -/
def Interrupted (s : ChangeStream) (limits : Limits) (now : Nat) : Prop :=
  ∃ time, s.closingTime limits = some time ∧ max now time ≤ limits.deadline
    ∧ max now time < now + s.timeout

/-- What a fetch with this exchange brings: a step or none where it was broken off. -/
inductive Brought (s : ChangeStream) (limits : Limits) (w : World) (e : Exchange) :
    Except Halt (Option StreamSeed) → Prop
  /-- A step of the subscription. -/
  | step (seed : StreamSeed) (came : e.subscription? s.connection.codec = some (.ok seed)) :
      Brought s limits w e (.ok (some seed))
  /-- A failure. -/
  | failure (err : Error) (came : e.subscription? s.connection.codec = some (.error err)) :
      Brought s limits w e (.error (.failed err))
  /-- Nothing came before the close signal fired. -/
  | interrupted (nothing : e.content = none) (fires : s.Interrupted limits w.now) :
      Brought s limits w e (.ok none)
  /-- Nothing came in time. -/
  | late (nothing : e.content = none) (calm : ¬ s.Interrupted limits w.now) :
      Brought s limits w e (.error (.failed (.timeout "try_next")))
  /-- Nothing came before the caller stopped waiting. -/
  | abandoned (nothing : e.content = none) (calm : ¬ s.Interrupted limits w.now) :
      Brought s limits w e (.error .abandoned)

/-- No event takes the place of a caller who stops waiting. -/
def broken : Except Halt (Option StreamSeed) → Except Halt (Option StreamSeed)
  | .error .abandoned => .ok none
  | r => r

/-- A close signal bounds a fetch like an earlier deadline, and breaks it off if it comes first. -/
theorem fetch_of_signal (s : ChangeStream) (id : String) (time : Nat) (limits : Limits)
    (w : World) :
    s.fetch id (some time) limits w
      = if max w.now time ≤ limits.deadline then
          (broken (s.fetch id none { limits with deadline := max w.now time } w).1,
            (s.fetch id none { limits with deadline := max w.now time } w).2)
        else s.fetch id none limits w := by
  by_cases fires : max w.now time ≤ limits.deadline
  · rw [if_pos fires]
    unfold fetch
    rw [Action.interruptedAt_eq, Action.interruptedAt_eq]
    dsimp only
    rw [if_pos fires]
    rcases s.connection.dispatchWithin s.timeout (some s.serial) (.bare "try_next")
      (s.origin.stateful .changeStream id) { limits with deadline := max w.now time } w
      with ⟨(_ | _) | reply, w'⟩
    · rfl
    · rfl
    · dsimp only [Action.brokenOff, Except.map]
      cases reply.toStream "try_next" <;> rfl
  · rw [if_neg fires]
    unfold fetch
    rw [Action.interruptedAt_eq, Action.interruptedAt_eq]
    dsimp only
    rw [if_neg fires]

/-- Nothing came where an exchange tells a subscription nothing. -/
theorem content_of_subscription {codec : Codec} {e : Exchange}
    (nothing : e.subscription? codec = none) : e.content = none := by
  simpa [Exchange.subscription?, Exchange.reply?] using nothing

/-- What is broken off has had its close signal fire in time. -/
theorem Interrupted.breaks {s : ChangeStream} {limits : Limits} {now : Nat}
    (h : s.Interrupted limits now) : s.Breaks limits now := by
  obtain ⟨time, fires, inTime, _⟩ := h
  exact ⟨time, fires, inTime⟩

/-- A fetch that is not broken off ends when it runs out of time or its caller stops waiting. -/
theorem cut_of_not_breaks {s : ChangeStream} {limits : Limits} {now : Nat}
    (whole : ¬ s.Breaks limits now) : s.cut limits now = limits := by
  unfold cut
  split
  · next time fires =>
    have late : limits.deadline ≤ max now time := by
      by_cases inTime : max now time ≤ limits.deadline
      · exact absurd ⟨time, fires, inTime⟩ whole
      · omega
    rw [Nat.min_eq_left late]
  · rfl

/-- A fetch that no close signal breaks off is a plain one. -/
theorem pull_of_not_breaks {s : ChangeStream} {id : String} {limits : Limits} {w : World}
    (whole : ¬ s.Breaks limits w.now) : s.pull id limits w = s.fetch id none limits w := by
  unfold pull
  rcases fires : s.closingTime limits with _ | time
  · rfl
  · rw [fetch_of_signal, if_neg fun inTime => whole ⟨time, fires, inTime⟩]

/-- What a fetch brings that is not broken off. -/
theorem brought_whole {s : ChangeStream} {limits : Limits} {w : World}
    (whole : ¬ s.Breaks limits w.now) (e : Exchange) :
    s.Brought limits w e ((s.fetched limits w e).map some) := by
  have calm : ¬ s.Interrupted limits w.now := fun h => whole h.breaks
  unfold fetched
  rcases came : e.subscription? s.connection.codec with _ | (err | seed)
  · have nothing := content_of_subscription came
    rcases s.late_eq limits w with late | late
    · rw [late]
      exact .late nothing calm
    · rw [late]
      exact .abandoned nothing calm
  · exact .failure err came
  · exact .step seed came

/-- What a fetch brings that is broken off when the close signal fires. -/
theorem brought_broken {s : ChangeStream} {limits : Limits} {w : World} {time : Nat}
    (fires : s.closingTime limits = some time) (inTime : max w.now time ≤ limits.deadline)
    (e : Exchange) :
    s.Brought limits w e
      (broken ((s.fetched { limits with deadline := max w.now time } w e).map some)) := by
  unfold fetched
  rcases came : e.subscription? s.connection.codec with _ | (err | seed)
  · have nothing := content_of_subscription came
    unfold late
    dsimp only
    by_cases spent : w.now + s.timeout ≤ max w.now time
    · rw [if_pos spent]
      refine .late nothing ?_
      rintro ⟨time', fires', _, left⟩
      cases fires.symm.trans fires'
      omega
    · rw [if_neg spent]
      exact .interrupted nothing ⟨time, fires, inTime, by omega⟩
  · exact .failure err came
  · exact .step seed came

/-- A fetch is refused on the spot or has one exchange, which tells what it brings. -/
theorem pull_refused_or_sent (s : ChangeStream) (id : String) (limits : Limits) (w : World) :
    (∃ err, s.connection.Refuses (.bare "try_next") (s.origin.stateful .changeStream id) w err
        ∧ s.pull id limits w = (.error (.failed err), w))
      ∨ ∃ e w' r,
          s.connection.Carries (.bare "try_next") (s.origin.stateful .changeStream id) w e
          ∧ Sends (some s.serial) (s.endurance limits) w [e] w'
          ∧ s.pull id limits w = (r, w') ∧ s.Brought limits w e r := by
  by_cases breaks : s.Breaks limits w.now
  · obtain ⟨time, fires, inTime⟩ := breaks
    have cut : s.cut limits w.now = { limits with deadline := max w.now time } := by
      unfold ChangeStream.cut
      rw [fires]
      dsimp only
      rw [Nat.min_eq_right inTime]
    have same : s.pull id limits w
        = (broken (s.fetch id none { limits with deadline := max w.now time } w).1,
          (s.fetch id none { limits with deadline := max w.now time } w).2) := by
      unfold pull
      rw [fires, fetch_of_signal, if_pos inTime]
    rcases s.fetch_refused_or_sent id { limits with deadline := max w.now time } w
      with ⟨err, refuses, hf⟩ | ⟨e, w', carries, sends, hf⟩
    · refine .inl ⟨err, refuses, ?_⟩
      rw [same, hf]
      rfl
    · refine .inr ⟨e, w', _, carries, ?_, by rw [same, hf], brought_broken fires inTime e⟩
      rw [← cut] at sends
      exact sends
  · rw [pull_of_not_breaks breaks]
    rcases s.fetch_refused_or_sent id limits w
      with ⟨err, refuses, hf⟩ | ⟨e, w', carries, sends, hf⟩
    · exact .inl ⟨err, refuses, hf⟩
    · refine .inr ⟨e, w', _, carries, ?_, hf, brought_whole breaks e⟩
      rw [← cut_of_not_breaks breaks] at sends
      exact sends

/-! ## Fetching at most one event -/

/-- A fetch is posted: no event is pending, the stream and its client are open, its close signal has
not fired and it holds a token. -/
structure Asked (s : ChangeStream) (limits : Limits) (w : World) (e : Exchange) (w' : World) :
    Prop where
  /-- No event is pending. -/
  none : s.pending = none
  /-- The stream is open. -/
  isOpen : s.state ≠ .closed
  /-- The close signal has not fired. -/
  unfired : w.hasFired s.serial = false
  /-- The client has not been closed. -/
  opened : w.isClosed s.connection.client = false
  /-- The request asks with the token that is held. -/
  request : ∃ id, s.streamId = some id
    ∧ e.request = s.connection.request ⟨"try_next", [], [], s.origin.stateful .changeStream id⟩
  /-- It is all that goes over the wire. -/
  sends : Sends (some s.serial) (s.endurance limits) w [e] w'

/-- What fetching at most one event comes to, whether or not the close signal fires: what goes over
the wire, the result, and the stream and the world after it. -/
inductive Attempted (s : ChangeStream) (limits : Limits) (w : World) :
    List Exchange → Except Halt (Option Document) → ChangeStream → World → Prop
  /-- The pending event is handed out. -/
  | pending (event : Document) (held : s.pending = some event) :
      Attempted s limits w [] (.ok (some event)) { s with pending := none } w
  /-- The stream has ended, and stays as it is. -/
  | ended (none : s.pending = none) (atEnd : s.state = .closed) :
      Attempted s limits w [] (.ok .none) s w
  /-- The close signal has fired. -/
  | signalled (none : s.pending = none) (isOpen : s.state ≠ .closed)
      (fired : w.hasFired s.serial = true) :
      Attempted s limits w [] (.ok .none) { s with state := .closed } w
  /-- There is no subscription to fetch from. -/
  | idless (none : s.pending = none) (isOpen : s.state ≠ .closed) (held : s.streamId = .none) :
      Attempted s limits w [] (.ok .none) { s with state := .closed } w
  /-- The request is refused on the spot, since the client has been closed. -/
  | refused (err : Error) (none : s.pending = none) (isOpen : s.state ≠ .closed)
      (unfired : w.hasFired s.serial = false) (shut : w.isClosed s.connection.client = true)
      (usage : err.kind = .usage) :
      Attempted s limits w [] (.error (.failed err))
        { s with state := .closed, streamId := .none } w
  /-- A step of the subscription comes back. -/
  | answered {e : Exchange} {w' : World} (seed : StreamSeed) (asked : s.Asked limits w e w')
      (came : e.subscription? s.connection.codec = some (.ok seed)) :
      Attempted s limits w [e] (.ok seed.event) (s.continued seed) w'
  /-- A failure comes back. -/
  | failed {e : Exchange} {w' : World} (err : Error) (asked : s.Asked limits w e w')
      (came : e.subscription? s.connection.codec = some (.error err)) :
      Attempted s limits w [e] (.error (.failed err))
        { s with state := .closed, streamId := none } w'
  /-- The close signal fires before anything comes back. -/
  | interrupted {e : Exchange} {w' : World} (asked : s.Asked limits w e w')
      (nothing : e.content = none) (fires : s.Interrupted limits w.now) :
      Attempted s limits w [e] (.ok none) { s with state := .closed } w'
  /-- Nothing comes back in time. -/
  | late {e : Exchange} {w' : World} (asked : s.Asked limits w e w') (nothing : e.content = none)
      (calm : ¬ s.Interrupted limits w.now) :
      Attempted s limits w [e] (.error (.failed (.timeout "try_next")))
        { s with state := .subscribed } w'
  /-- Nothing comes back before the caller stops waiting. -/
  | abandoned {e : Exchange} {w' : World} (asked : s.Asked limits w e w')
      (nothing : e.content = none) (calm : ¬ s.Interrupted limits w.now) :
      Attempted s limits w [e] (.error .abandoned) { s with state := .fetching } w'

/-- A posted fetch comes to what it brings. -/
theorem attempted_of_brought {s : ChangeStream} {limits : Limits} {w w' : World} {e : Exchange}
    {q : Except Halt (Option StreamSeed)} (asked : s.Asked limits w e w')
    (brought : s.Brought limits w e q) :
    Attempted s limits w [e] (s.pulled q).1 (s.pulled q).2 w' := by
  cases brought with
  | step seed came => exact .answered seed asked came
  | failure err came =>
    unfold pulled
    dsimp only
    rw [if_neg (Exchange.kind_subscription came)]
    exact .failed err asked came
  | interrupted nothing fires => exact .interrupted asked nothing fires
  | late nothing calm => exact .late asked nothing calm
  | abandoned nothing calm => exact .abandoned asked nothing calm

/-- A single fetch is one of the things that it can be, whatever signal fires meanwhile. -/
theorem attempted (s : ChangeStream) (limits : Limits) (w : World) :
    ∃ es, Attempted s limits w es (s.tryNext limits w).1 (s.tryNext limits w).2.1
      (s.tryNext limits w).2.2 := by
  rcases none : s.pending with _ | event
  · by_cases atEnd : s.state = .closed
    · rw [tryNext_ended none atEnd]
      exact ⟨[], .ended none atEnd⟩
    · rw [tryNext_eq none atEnd]
      rcases fired : w.hasFired s.serial with _ | _
      · rw [if_neg Bool.false_ne_true]
        rcases held : s.streamId with _ | id
        · rw [pullNext_none held]
          exact ⟨[], .idless none atEnd held⟩
        · rw [pullNext_some held]
          rcases s.pull_refused_or_sent id limits w
            with ⟨err, refuses, hp⟩ | ⟨e, w', q, carries, sends, hp, brought⟩
          · refine ⟨[], ?_⟩
            rw [hp]
            unfold pulled
            dsimp only
            rw [if_neg (by rw [refuses.kind]; decide)]
            exact .refused err none atEnd fired refuses.bare refuses.kind
          · refine ⟨[e], ?_⟩
            rw [hp]
            have asked : s.Asked limits w e w' :=
              ⟨none, atEnd, fired, carries.isOpen, ⟨id, held, carries.bare⟩, sends⟩
            exact attempted_of_brought asked brought
      · rw [if_pos rfl]
        exact ⟨[], .signalled none atEnd fired⟩
  · rw [tryNext_pending none]
    exact ⟨[], .pending event none⟩

section attempted

variable {s s' : ChangeStream} {limits : Limits} {w w' : World} {es : List Exchange}
  {r : Except Halt (Option Document)}

/-- What goes over the wire is all that happens to the world. -/
theorem Attempted.sends (h : Attempted s limits w es r s' w') :
    Sends (some s.serial) (s.endurance limits) w es w' := by
  cases h with
  | pending | ended | signalled | idless | refused => exact .nil _ _ _
  | answered _ asked | failed _ asked | interrupted asked | late asked | abandoned asked =>
    exact asked.sends

/-- A fetch is posted at most once, and only as long as the close signal has not fired. -/
theorem Attempted.asks (h : Attempted s limits w es r s' w') :
    es = [] ∨ ∃ e, es = [e] ∧ s.Asked limits w e w' := by
  cases h with
  | pending | ended | signalled | idless | refused => exact .inl rfl
  | answered _ asked | failed _ asked | interrupted asked | late asked | abandoned asked =>
    exact .inr ⟨_, rfl, asked⟩

/-- What goes over the wire is a fetch. -/
theorem Attempted.asked (h : Attempted s limits w es r s' w') {e : Exchange} (member : e ∈ es) :
    s.Asked limits w e w' := by
  rcases h.asks with none | ⟨e', one, asked⟩
  · rw [none] at member
    cases member
  · rw [one] at member
    cases List.mem_singleton.mp member
    exact asked

/-- A fetch asks for the next step of the subscription. -/
theorem Asked.operation {e : Exchange} (asked : s.Asked limits w e w') :
    e.request.envelope.operation = "try_next" := by
  obtain ⟨id, _, request⟩ := asked.request
  rw [request]
  rfl

/-- A fetch changes neither the connection of a stream nor where it was opened, nor its number and
its bound on a fetch. -/
theorem Attempted.same (h : Attempted s limits w es r s' w') :
    s'.connection = s.connection ∧ s'.origin = s.origin ∧ s'.serial = s.serial
      ∧ s'.timeout = s.timeout := by
  cases h <;> exact ⟨rfl, rfl, rfl, rfl⟩

/-- A fetch lasts at most until the close signal fires. -/
theorem Attempted.now_le (h : Attempted s limits w es r s' w') {time : Nat}
    (fires : s.closingTime limits = some time) (ahead : w.now ≤ time) : w'.now ≤ time := by
  rcases h.asks with none | ⟨e, one, asked⟩
  · have sends := h.sends
    rw [none] at sends
    have same : w = w' := congrArg Prod.snd sends
    rw [← same]
    exact ahead
  · have bound := asked.sends.now_le
    have most : s.endurance limits w.now ≤ time := by
      unfold endurance patience cut
      rw [fires]
      dsimp only
      omega
    omega

end attempted

end ChangeStream

end RemoteDriver
