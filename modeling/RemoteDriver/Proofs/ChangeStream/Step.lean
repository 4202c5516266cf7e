import RemoteDriver.ChangeStream
import RemoteDriver.Proofs.Transcript

/-!
# Fetches of a change stream

What a single fetch comes to as long as nobody closes the stream on this side: an event that was
pending is handed out, or there is nothing to fetch any more, or the request is refused on the
spot, or it is posted and what comes back decides everything (`tried`).  Waiting for an event is a
row of fetches, and what holds of a row holds of waiting (`nextEvent_induction`).
-/

namespace RemoteDriver

open Bson (Document Value)

namespace Exchange

/-- What an exchange brought to a subscription: a step of it or a failure. -/
def subscription? (codec : Codec) (e : Exchange) : Option (Except Error StreamSeed) :=
  (e.reply? codec).map (·.bind (Reply.toStream e.request.envelope.operation))

/-- The step of a subscription that an exchange brought. -/
def step? (codec : Codec) (e : Exchange) : Option StreamSeed :=
  (e.subscription? codec).bind Except.toOption

/-- The failure that an exchange brought to a subscription: nothing that could be read, or a reply
of another kind. -/
def failure? (codec : Codec) (e : Exchange) : Option Error :=
  (e.subscription? codec).bind fun
    | .ok _ => none
    | .error err => some err

/-- Where nothing comes back, a subscription is told nothing. -/
theorem subscription?_of_nothing {codec : Codec} {e : Exchange} (nothing : e.content = none) :
    e.subscription? codec = none := by
  rw [subscription?, reply?, nothing]
  rfl

/-- What comes back is never a failure of time. -/
theorem kind_received {codec : Codec} {operation : String} {content : Content} {err : Error}
    (h : Connection.received codec operation content = .error err) : err.kind ≠ .timeout := by
  cases content with
  | unreachable reason => cases h; simp [Error.kind]
  | undecodable reason => cases h; simp [Error.kind]
  | body v =>
    simp only [Connection.received, Reply.decode] at h
    split at h
    · next response _ =>
      cases response <;> simp only [Reply.ofResponse] at h
      · split at h <;> cases h
        simp [Reply.undecodable, Error.kind]
      · split at h <;> cases h
        simp [Reply.undecodable, Error.kind]
      · split at h
        · cases h
          simp [Reply.undecodable, Error.kind]
        · split at h <;> cases h
          simp [Reply.undecodable, Error.kind]
      · cases h
        simp [Error.kind]
    · cases h
      simp [Error.kind]

/-- What comes back for a fetch is never a timeout. -/
theorem kind_subscription {codec : Codec} {e : Exchange} {err : Error}
    (h : e.subscription? codec = some (.error err)) : err.kind ≠ .timeout := by
  unfold subscription? reply? at h
  obtain ⟨r, hr, hb⟩ := Option.map_eq_some_iff.mp h
  obtain ⟨content, _, hc⟩ := Option.map_eq_some_iff.mp hr
  rcases r with err' | reply
  · cases hb
    exact kind_received hc
  · cases reply with
    | stream seed => cases hb
    | value v =>
      cases hb
      simp [Reply.unexpected, Error.kind]
    | cursor seed =>
      cases hb
      simp [Reply.unexpected, Error.kind]

end Exchange

namespace ChangeStream

open World (Sends)

/-! ## One fetch -/

/-- Until when a fetch that begins at some time is waited for. -/
def patience (s : ChangeStream) (limits : Limits) (now : Nat) : Nat :=
  min (now + s.timeout) limits.deadline

/-- Why a fetch that brings nothing has brought nothing: it took too long, or its caller stopped
waiting. -/
def late (s : ChangeStream) (limits : Limits) (w : World) : Halt :=
  if w.now + s.timeout ≤ limits.deadline then .failed (.timeout "try_next") else .abandoned

/-- A fetch that brings nothing comes to one of two ends. -/
theorem late_eq (s : ChangeStream) (limits : Limits) (w : World) :
    s.late limits w = .failed (.timeout "try_next") ∨ s.late limits w = .abandoned := by
  unfold late
  split
  · exact .inl rfl
  · exact .inr rfl

/-- The result of a fetch with this exchange. -/
def fetched (s : ChangeStream) (limits : Limits) (w : World) (e : Exchange) :
    Except Halt StreamSeed :=
  match e.subscription? s.connection.codec with
  | some (.ok seed) => .ok seed
  | some (.error err) => .error (.failed err)
  | none => .error (s.late limits w)

/-- The state of a change stream that still waits for an answer. -/
def waiting : Halt → StreamState
  | .failed _ => .subscribed
  | .abandoned => .fetching

/-- The change stream after a fetch with this exchange. -/
def told (s : ChangeStream) (limits : Limits) (w : World) (e : Exchange) : ChangeStream :=
  match e.subscription? s.connection.codec with
  | some (.ok seed) => s.continued seed
  | some (.error _) => { s with state := .closed, streamId := none }
  | none => { s with state := waiting (s.late limits w) }

/-- Nobody closes the stream on this side: its close signal has not fired and does not fire. -/
structure Undisturbed (serial : Nat) (limits : Limits) (w : World) : Prop where
  /-- The signal has not fired. -/
  unfired : w.hasFired serial = false
  /-- It does not fire while an operation runs. -/
  unclosed : ∀ time, limits.closing ≠ some (serial, time)

/-- A stream that is not disturbed has no close signal to wait for. -/
theorem Undisturbed.closingTime {s : ChangeStream} {limits : Limits} {w : World}
    (h : Undisturbed s.serial limits w) : s.closingTime limits = none := by
  unfold ChangeStream.closingTime
  split
  · next serial time hc =>
    rw [if_neg]
    intro same
    exact h.unclosed time (same ▸ hc)
  · rfl

/-- Exchanges fire no close signal. -/
theorem Undisturbed.sends {serial : Nat} {limits : Limits} {w w' : World} {sender : Sender}
    {deadline : Nat → Nat} {es : List Exchange} (h : Undisturbed serial limits w)
    (sends : Sends sender deadline w es w') : Undisturbed serial limits w' :=
  ⟨(sends.hasFired serial).trans h.unfired, h.unclosed⟩

/-- A fetch is refused on the spot or has one exchange, which is its result. -/
theorem fetch_refused_or_sent (s : ChangeStream) (id : String) (limits : Limits) (w : World) :
    (∃ err, s.connection.Refuses (.bare "try_next") (s.origin.stateful .changeStream id) w err
        ∧ s.fetch id none limits w = (.error (.failed err), w))
      ∨ ∃ e w',
          s.connection.Carries (.bare "try_next") (s.origin.stateful .changeStream id) w e
          ∧ Sends (some s.serial) (s.patience limits) w [e] w'
          ∧ s.fetch id none limits w = ((s.fetched limits w e).map some, w') := by
  unfold fetch Action.interruptedAt
  rcases s.connection.dispatchWithin_refused_or_sent s.timeout (some s.serial) (.bare "try_next")
      (s.origin.stateful .changeStream id) limits w
    with ⟨err, refuses, hd⟩ | ⟨e, w', carries, sends, hd⟩
  · refine Or.inl ⟨err, refuses, ?_⟩
    simp only [hd]
    rfl
  · refine Or.inr ⟨e, w', carries, sends, ?_⟩
    have named : e.request.envelope.operation = "try_next" := carries.operation
    simp only [hd]
    unfold fetched late Exchange.subscription? Exchange.result
    rw [named]
    rcases e.reply? s.connection.codec with _ | (err | reply)
    · rfl
    · rfl
    · cases reply <;> rfl

/-- What fetching at most one event comes to, if nobody closes the stream. -/
inductive Tried (s : ChangeStream) (limits : Limits) (w : World)
    (r : Except Halt (Option Document) × ChangeStream × World) : Prop
  /-- The pending event is handed out. -/
  | pending (event : Document) (held : s.pending = some event)
      (result : r = (.ok (some event), { s with pending := none }, w))
  /-- The stream has ended, and stays as it is. -/
  | ended (none : s.pending = none) (atEnd : s.state = .closed) (result : r = (.ok .none, s, w))
  /-- There is no subscription to fetch from. -/
  | idless (none : s.pending = none) (isOpen : s.state ≠ .closed) (held : s.streamId = .none)
      (result : r = (.ok .none, { s with state := .closed }, w))
  /-- The request is refused on the spot. -/
  | refused (id : String) (err : Error) (none : s.pending = none) (isOpen : s.state ≠ .closed)
      (held : s.streamId = some id)
      (refuses : s.connection.Refuses (.bare "try_next") (s.origin.stateful .changeStream id) w err)
      (result : r = (.error (.failed err), { s with state := .closed, streamId := .none }, w))
  /-- The request is posted. -/
  | sent (id : String) (e : Exchange) (w' : World) (none : s.pending = none)
      (isOpen : s.state ≠ .closed) (held : s.streamId = some id)
      (carries : s.connection.Carries (.bare "try_next") (s.origin.stateful .changeStream id) w e)
      (sends : Sends (some s.serial) (s.patience limits) w [e] w')
      (result : r = ((s.fetched limits w e).map (·.event), s.told limits w e, w'))

/-- A fetch that no signal disturbs is one of the things that it can be. -/
theorem tried (s : ChangeStream) (limits : Limits) (w : World)
    (undisturbed : Undisturbed s.serial limits w) : Tried s limits w (s.tryNext limits w) := by
  unfold tryNext
  split
  · next event held => exact .pending event held rfl
  · next none =>
    split
    · next atEnd => exact .ended none atEnd rfl
    · next isOpen =>
      rw [if_neg (by rw [undisturbed.unfired]; decide)]
      split
      · next held => exact .idless none isOpen held rfl
      · next id held =>
        rw [undisturbed.closingTime]
        rcases s.fetch_refused_or_sent id limits w
          with ⟨err, refuses, hf⟩ | ⟨e, w', carries, sends, hf⟩
        · refine .refused id err none isOpen held refuses ?_
          rw [hf]
          dsimp only
          rw [if_neg (by rw [refuses.kind]; decide)]
        · refine .sent id e w' none isOpen held carries sends ?_
          rw [hf]
          unfold fetched told
          rcases hs : e.subscription? s.connection.codec with _ | (err | seed)
          · rcases s.late_eq limits w with h | h <;> rw [h] <;> rfl
          · dsimp only [Except.map]
            rw [if_neg (Exchange.kind_subscription hs)]
          · rfl

/-! ## Waiting for an event -/

/-- Whether waiting for an event goes on after a fetch: none came in time, or none came and more
may. -/
def GoesOn (r : Except Halt (Option Document)) (s : ChangeStream) : Prop :=
  (r = .ok none ∧ s.state ≠ .closed) ∨ ∃ err, r = .error (.failed err) ∧ err.kind = .timeout

/-- Waiting for an event is a row of fetches.  What holds of a fetch after which it does not go on,
and of a fetch before a row of which it holds, holds of waiting. -/
theorem nextEvent_induction {limits : Limits}
    {motive : ChangeStream → World → Except Halt (Option Document) × ChangeStream × World → Prop}
    (stop : ∀ {s s' : ChangeStream} {w w' : World} {r : Except Halt (Option Document)},
      s.tryNext limits w = (r, s', w') → ¬ GoesOn r s' → motive s w (r, s', w'))
    (again : ∀ {s s' : ChangeStream} {w w' : World} {r : Except Halt (Option Document)},
      s.tryNext limits w = (r, s', w') → GoesOn r s' →
        motive s' w' (s'.nextEvent limits w') → motive s w (s'.nextEvent limits w'))
    (s : ChangeStream) (w : World) : motive s w (s.nextEvent limits w) := by
  fun_induction nextEvent s limits w with
  | case1 s w event s' w' fetched =>
    refine stop fetched ?_
    rintro (⟨same, _⟩ | ⟨_, same, _⟩) <;> cases same
  | case2 s w s' w' fetched ended =>
    refine stop fetched ?_
    rintro (⟨_, live⟩ | ⟨_, same, _⟩)
    · exact live ended
    · cases same
  | case3 s w s' w' fetched live ih => exact again fetched (.inl ⟨rfl, live⟩) ih
  | case4 s w s' w' fetched =>
    refine stop fetched ?_
    rintro (⟨same, _⟩ | ⟨_, same, _⟩) <;> cases same
  | case5 s w err s' w' fetched late ih => exact again fetched (.inr ⟨err, rfl, late⟩) ih
  | case6 s w err s' w' fetched prompt =>
    refine stop fetched ?_
    rintro (⟨same, _⟩ | ⟨_, same, late⟩)
    · cases same
    · cases same
      exact prompt late

end ChangeStream

end RemoteDriver
