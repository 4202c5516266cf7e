import RemoteDriver.Outcome
import RemoteDriver.Proofs.Closing.Comparison

/-!
# Calls and closed clients

Every call is gated by the client of its connection (`dispatch_gated`), also one that is bounded in
time or broken off.  What a gateway offers is put together from calls, so it is gated as well, and
a handle that it makes has the connection of the gateway.
-/

namespace RemoteDriver

open Bson (Document Value)

/-! ## Posting -/

namespace Action

variable {α : Type} {client : Nat} {owned : α → Prop}

/-- The remote side does not know which clients have been closed. -/
theorem post_reopened (sender : Sender) (request : Request) (limits : Limits) (w : World)
    (n : Nat) : post sender request limits (w.reopened n)
      = ((post sender request limits w).1, (post sender request limits w).2.reopened n) := by
  unfold post
  dsimp only [World.reopened]
  split
  · rfl
  · split <;> rfl

/-- A post adds to the log and does nothing else that is kept in order. -/
theorem post_moves (sender : Sender) (request : Request) (limits : Limits) (w : World) :
    Moves client w (post sender request limits w).2 := by
  have closed : (post sender request limits w).2.closed = w.closed := by
    unfold post
    dsimp only
    split
    · rfl
    · split <;> rfl
  have next : (post sender request limits w).2.next = w.next := by
    unfold post
    dsimp only
    split
    · rfl
    · split <;> rfl
  refine ⟨?_, ?_, ?_, Nat.le_of_eq next.symm⟩
  · rw [World.posted_post]
    exact List.prefix_append _ _
  · intro m h
    rwa [World.isClosed, closed]
  · intro m h
    rw [World.isClosed, closed] at h
    exact .inl h

/-! ## Bounds in time -/

/-- A timeout takes the place of a caller who stops waiting. -/
def outOfTime (operation : String) : Except Halt α → Except Halt α
  | .error .abandoned => .error (.failed (.timeout operation))
  | r => r

/-- A bound in time is the earlier deadline, with a timeout if it is the bound that comes first. -/
theorem within_eq (operation : String) (span : Nat) (t : Action α) (limits : Limits) (w : World) :
    within operation span t limits w
      = if w.now + span ≤ limits.deadline then
          (outOfTime operation (t { limits with deadline := w.now + span } w).1,
            (t { limits with deadline := w.now + span } w).2)
        else t limits w := by
  unfold within
  dsimp only
  split
  · rcases t { limits with deadline := w.now + span } w with ⟨(_ | _) | _, _⟩ <;> rfl
  · rfl

/-- A bound in time is put on a gated computation. -/
theorem gated_within {t : Action α} (h : t.Gated client owned) (operation : String)
    (span : Nat) : (within operation span t).Gated client owned := by
  constructor
  · intro limits w
    rw [within_eq]
    split
    · exact h.moves _ w
    · exact h.moves limits w
  · intro n limits w shut
    rw [within_eq, within_eq]
    have now : (w.reopened n).now = w.now := rfl
    rw [now]
    split
    · refine (h.compares n _ w shut).map ?_
      rintro ((e' | _) | a) e failed _
      · exact failed
      · cases failed
      · cases failed
    · exact h.compares n limits w shut
  · intro limits w a ha
    rw [within_eq] at ha
    split at ha
    · apply h.yields { limits with deadline := w.now + span } w a
      rcases hr : (t { limits with deadline := w.now + span } w).1 with (e | _) | b
      · rw [hr] at ha
        cases ha
      · rw [hr] at ha
        cases ha
      · rw [hr] at ha
        exact ha
    · exact h.yields limits w a ha

/-- No result takes the place of a caller who stops waiting. -/
def brokenOff : Except Halt α → Except Halt (Option α)
  | .error .abandoned => .ok none
  | r => r.map some

/-- Breaking off is the earlier deadline, with no result if it is the moment that comes first. -/
theorem interruptedAt_eq (moment : Option Nat) (t : Action α) (limits : Limits) (w : World) :
    interruptedAt moment t limits w
      = match moment with
        | none => ((t limits w).1.map some, (t limits w).2)
        | some moment =>
          if max w.now moment ≤ limits.deadline then
            (brokenOff (t { limits with deadline := max w.now moment } w).1,
              (t { limits with deadline := max w.now moment } w).2)
          else ((t limits w).1.map some, (t limits w).2) := by
  unfold interruptedAt
  cases moment with
  | none => rfl
  | some moment =>
    dsimp only
    split
    · rcases t { limits with deadline := max w.now moment } w with ⟨(_ | _) | _, _⟩ <;> rfl
    · rfl

/-- A gated computation may be given up at some moment. -/
theorem gated_interruptedAt {t : Action α} (h : t.Gated client owned) (moment : Option Nat) :
    (interruptedAt moment t).Gated client fun _ => True := by
  refine ⟨?_, ?_, fun _ _ _ _ => trivial⟩
  · intro limits w
    rw [interruptedAt_eq]
    split
    · exact h.moves limits w
    · split
      · exact h.moves _ w
      · exact h.moves limits w
  · intro n limits w shut
    rw [interruptedAt_eq, interruptedAt_eq]
    have now : (w.reopened n).now = w.now := rfl
    rw [now]
    have whole : Compares n (client = n) failure? w ((t limits w).1.map some, (t limits w).2)
        ((t limits (w.reopened n)).1.map some, (t limits (w.reopened n)).2) := by
      refine (h.compares n limits w shut).map ?_
      intro r e failed _
      rw [failure?_map]
      exact failed
    split
    · exact whole
    · split
      · refine (h.compares n _ w shut).map ?_
        rintro ((e' | _) | a) e failed _
        · exact failed
        · cases failed
        · cases failed
      · exact whole

end Action

/-! ## Calls -/

namespace Connection

open World (Sends)

section dispatch

variable (c : Connection) (sender : Sender) (call : Call) (route : Route) (limits : Limits)

/-- A call moves the world as its client allows. -/
theorem dispatch_moves (w : World) :
    Moves c.client w (c.dispatch sender call route limits w).2 := by
  unfold dispatch
  split
  · exact .refl _ w
  · split
    · exact .refl _ w
    · next envelope _ =>
      have moves : Moves c.client w (Action.post sender (c.request envelope) limits w).2 :=
        Action.post_moves sender (c.request envelope) limits w
      generalize Action.post sender (c.request envelope) limits w = posted at moves ⊢
      obtain ⟨halt | content, w'⟩ := posted
      · exact moves
      · dsimp only
        split <;> exact moves

/-- A closed client refuses a call before anything is sent. -/
theorem dispatch_of_closed {w : World} (closed : w.isClosed c.client = true) :
    c.dispatch sender call route limits w = (.error (.failed (closedError call.name)), w) := by
  unfold dispatch
  rw [if_pos closed]

/-- An open client gets as far as the call. -/
theorem dispatch_reaches {w : World} (opened : w.isClosed c.client = false) :
    Reaches failure? call.name w (c.dispatch sender call route limits w) := by
  rcases c.dispatch_refused_or_sent sender call route limits w
    with ⟨err, refuses, hd⟩ | ⟨e, w', carries, sends, hd⟩
  · rcases refuses with ⟨closed, _⟩ | ⟨_, he⟩
    · rw [opened] at closed
      cases closed
    · obtain ⟨cause, rfl⟩ := Envelope.ofCall_error he
      rw [hd]
      exact .inr ⟨rfl, cause, rfl⟩
  · rw [hd]
    exact .inl ⟨e.request, [], sends.posted, carries.operation⟩

/-- A call of one client does not depend on whether another one is closed. -/
theorem dispatch_reopened {n : Nat} (other : c.client ≠ n) (w : World) :
    c.dispatch sender call route limits (w.reopened n)
      = ((c.dispatch sender call route limits w).1,
        (c.dispatch sender call route limits w).2.reopened n) := by
  unfold dispatch
  rw [w.isClosed_reopened_of_ne other]
  split
  · rfl
  · split
    · rfl
    · next envelope _ =>
      rw [Action.post_reopened]
      rcases Action.post sender (c.request envelope) limits w with ⟨halt | content, w'⟩
      · rfl
      · dsimp only
        split <;> rfl

end dispatch

/-- A call is gated by the client of its connection. -/
theorem dispatch_gated (c : Connection) (sender : Sender) (call : Call) (route : Route) :
    (c.dispatch sender call route).Gated c.client fun _ => True := by
  refine ⟨c.dispatch_moves sender call route, ?_, fun _ _ _ _ => trivial⟩
  intro n limits w shut
  by_cases own : c.client = n
  · subst own
    rw [c.dispatch_of_closed sender call route limits (shut rfl)]
    exact .gated rfl call.name rfl rfl
      (c.dispatch_reaches sender call route limits (w.isClosed_reopened_self c.client))
  · exact .alike (c.dispatch_reopened sender call route limits own w) fun mine => absurd mine own

/-- A call that has a limited time to be answered is gated as well. -/
theorem dispatchWithin_gated (c : Connection) (span : Nat) (sender : Sender) (call : Call)
    (route : Route) : (c.dispatchWithin span sender call route).Gated c.client fun _ => True :=
  Action.gated_within (c.dispatch_gated sender call route) call.name span

end Connection

/-! ## Gateways -/

namespace Gateway

open RemoteDriver.Action

variable (g : Gateway) (name : String) (args : List Value) (kwargs : Document)

/-- A call that is passed through is gated by the client of the gateway. -/
theorem forward_gated :
    (g.forward name args kwargs).Gated g.connection.client fun _ => True := by
  unfold forward
  split
  · exact gated_fail _
  · split
    · exact gated_fail _
    · exact g.connection.dispatch_gated _ _ _

/-- A cursor has the connection of the gateway that opens it. -/
theorem openCursor_gated (seed : CursorSeed) :
    (g.openCursor seed).Gated g.connection.client fun c => c.connection = g.connection :=
  gated_bind gated_fresh fun _ _ => gated_pure rfl

/-- A change stream has the connection of the gateway that opens it. -/
theorem openStream_gated (seed : StreamSeed) :
    (g.openStream seed).Gated g.connection.client fun s => s.connection = g.connection :=
  gated_bind gated_fresh fun _ _ => gated_pure rfl

/-- A call for a value is gated by the client of the gateway. -/
theorem value_gated : (g.value name args kwargs).Gated g.connection.client fun _ => True :=
  gated_bind (g.forward_gated name args kwargs) fun _ _ => gated_told _

/-- A call for a cursor is gated, and the cursor has the connection of the gateway. -/
theorem cursor_gated : (g.cursor name args kwargs).Gated g.connection.client
    fun c => c.connection = g.connection := by
  apply gated_bind (g.forward_gated name args kwargs)
  intro reply _
  apply gated_bind (gated_told _)
  intro seed _
  exact g.openCursor_gated seed

/-- A call for a change stream is gated, and the stream has the connection of the gateway. -/
theorem stream_gated : (g.stream name args kwargs).Gated g.connection.client
    fun s => s.connection = g.connection := by
  apply gated_bind (g.forward_gated name args kwargs)
  intro reply _
  apply gated_bind (gated_told _)
  intro seed _
  exact g.openStream_gated seed

/-- Watching is gated, and the stream has the connection of the gateway. -/
theorem watch_gated (pipeline : Option (List Document)) :
    (g.watch pipeline).Gated g.connection.client fun s => s.connection = g.connection :=
  g.stream_gated _ _ _

end Gateway

end RemoteDriver
