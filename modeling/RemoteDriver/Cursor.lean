import RemoteDriver.Ending
import RemoteDriver.Progress

/-!
# Result sets

A cursor goes through a result set that the remote side holds.  The first documents come with the
reply that opens it; each further request fetches one more batch with the token of the reply
before it.  A cursor ends when a reply brings no token, when a request fails, or when it is closed,
and it does not start again.
-/

namespace RemoteDriver

open Bson (Document Value)

/-- The life of a cursor. -/
inductive CursorState
  /-- It holds a token; more may follow. -/
  | opened
  /-- A request is under way, or was given up. -/
  | advancing
  /-- The remote side has no more. -/
  | exhausted
  /-- A request failed. -/
  | errored
  /-- It was closed. -/
  | closed
deriving DecidableEq, Repr

namespace CursorState

/-- Whether no further batch can be fetched. -/
def isTerminal : CursorState → Bool
  | opened => false
  | advancing => false
  | exhausted => true
  | errored => true
  | closed => true

/-- The name of a state. -/
def name : CursorState → String
  | opened => "Open"
  | advancing => "Advancing"
  | exhausted => "Exhausted"
  | errored => "Errored"
  | closed => "Closed"

/-- The state of a cursor after a reply with this token. -/
def after (token : Option String) : CursorState := if token.isSome then opened else exhausted

end CursorState

/-- A cursor. -/
structure Cursor where
  /-- The connection of its client. -/
  connection : Connection
  /-- The route of the object that opened it. -/
  origin : Route
  /-- Its number. -/
  serial : Nat
  /-- The token to continue with. -/
  cursorId : Option String
  /-- The namespace of the result set, where the remote side told it. -/
  reportedNamespace : Option String
  /-- The documents fetched and not yet handed out. -/
  buffer : List Document
  /-- How many documents a request asks for. -/
  batchSize : Option Nat
  /-- Where it is in its life. -/
  state : CursorState

namespace Cursor

/-- The cursor that a reply opens. -/
def ofSeed (connection : Connection) (origin : Route) (serial : Nat) (seed : CursorSeed) : Cursor :=
  ⟨connection, origin, serial, seed.cursorId, seed.reportedNamespace, seed.batch, none,
    .after seed.cursorId⟩

/-- Whether it may still hand out documents. -/
def isAlive (c : Cursor) : Bool := !c.buffer.isEmpty || !c.state.isTerminal

/-- Whether nothing is left to hand out. -/
def isExhausted (c : Cursor) : Bool := c.buffer.isEmpty && c.state.isTerminal

/-- The route of calls on it. -/
def route (c : Cursor) : Route := c.origin.toHandle .commandCursor c.cursorId

/-- The cursor with a limit on the documents of a request. -/
def withBatchSize (c : Cursor) (size : Nat) : Cursor := { c with batchSize := some size }

/-- Its description. -/
def description (c : Cursor) : String :=
  "CommandCursor \x7b cursor_id: " ++ Text.quotedOption c.cursorId ++ ", state: " ++ c.state.name
    ++ ", buffered: " ++ toString c.buffer.length ++ " \x7d"

/-! ## Fetching -/

/-- The call that fetches a batch. -/
def getMore (c : Cursor) : Call :=
  match c.batchSize with
  | some size => ⟨"get_more", [], [("batch_size", .int64 (Int64.ofInt size))]⟩
  | none => .bare "get_more"

/-- Fetches a batch. -/
def fetch (c : Cursor) (token : String) : Action CursorSeed := fun limits w =>
  match c.connection.dispatch (some c.serial) c.getMore (c.origin.stateful .commandCursor token)
      limits w with
  | (.ok reply, w) =>
    match reply.toCursor "get_more" with
    | .ok seed => (.ok seed, w)
    | .error e => (.error (.failed e), w)
  | (.error h, w) => (.error h, w)

/-- The cursor after a batch. -/
def continued (c : Cursor) (seed : CursorSeed) : Cursor :=
  { c with
    buffer := c.buffer ++ seed.batch
    cursorId := seed.cursorId
    state := .after seed.cursorId }

/-- Fetches the next batch, with exactly one request as long as the cursor is open; the result is
whether it brought documents. -/
def advance (c : Cursor) (limits : Limits) (w : World) : Except Halt Bool × Cursor × World :=
  if c.state.isTerminal then (.ok false, c, w)
  else
    match c.cursorId with
    | none => (.ok false, { c with state := .exhausted }, w)
    | some token =>
      match c.fetch token limits w with
      | (.ok seed, w) => (.ok (!seed.batch.isEmpty), c.continued seed, w)
      | (.error (.failed e), w) => (.error (.failed e), { c with state := .errored }, w)
      | (.error .abandoned, w) => (.error .abandoned, { c with state := .advancing }, w)

/-- A batch costs the script an answer. -/
theorem remaining_of_fetch {c : Cursor} {token : String} {limits : Limits} {w w' : World}
    {seed : CursorSeed} (h : c.fetch token limits w = (.ok seed, w')) :
    w'.remaining < w.remaining := by
  unfold fetch at h
  have cases := c.connection.dispatch_cases (some c.serial) c.getMore
    (c.origin.stateful .commandCursor token) limits w
  split at h
  · next reply w'' hd =>
    rw [hd] at cases
    rcases cases with lt | ⟨v, hv⟩ | ⟨e, he, _⟩
    · split at h <;> simp only [Prod.mk.injEq, reduceCtorEq, false_and] at h
      exact h.2 ▸ lt
    · simp only [Except.ok.injEq] at hv
      subst hv
      simp [Reply.toCursor] at h
    · simp at he
  · simp at h

/-- An advance that succeeds costs the script an answer, or ends the cursor. -/
theorem advance_cases {c c' : Cursor} {limits : Limits} {w w' : World} {b : Bool}
    (h : c.advance limits w = (.ok b, c', w')) :
    w'.remaining < w.remaining ∨ (w' = w ∧ c'.state.isTerminal) := by
  unfold advance at h
  split at h
  · next ht =>
    simp only [Prod.mk.injEq] at h
    exact Or.inr ⟨h.2.2.symm, h.2.1 ▸ ht⟩
  · split at h
    · simp only [Prod.mk.injEq] at h
      exact Or.inr ⟨h.2.2.symm, h.2.1 ▸ rfl⟩
    · split at h
      · next hf =>
        simp only [Prod.mk.injEq] at h
        exact Or.inl (h.2.2 ▸ remaining_of_fetch hf)
      · simp at h
      · simp at h

/-- Hands out the next document and fetches batches as needed for it; nothing once the result set
is at its end. -/
def tryNext (c : Cursor) (limits : Limits) (w : World) :
    Except Halt (Option Document) × Cursor × World :=
  match c.buffer with
  | d :: rest => (.ok (some d), { c with buffer := rest }, w)
  | [] =>
    if c.state.isTerminal then (.ok none, c, w)
    else
      match _advanced : c.advance limits w with
      | (.ok _, c', w') => c'.tryNext limits w'
      | (.error h, c', w') => (.error h, c', w')
termination_by (w.remaining, if c.state.isTerminal then 0 else 1)
decreasing_by
  rcases advance_cases _advanced with lt | ⟨same, ended⟩
  · exact Prod.Lex.left _ _ lt
  · subst same
    apply Prod.Lex.right
    simp_all

/-- What has been fetched is handed out first. -/
theorem tryNext_handed {c : Cursor} {d : Document} {rest : List Document}
    (front : c.buffer = d :: rest) (limits : Limits) (w : World) :
    c.tryNext limits w = (.ok (some d), { c with buffer := rest }, w) := by
  unfold tryNext
  rw [front]

/-- A cursor at its end has nothing to hand out. -/
theorem tryNext_ended {c : Cursor} (front : c.buffer = []) (ended : c.state.isTerminal = true)
    (limits : Limits) (w : World) : c.tryNext limits w = (.ok none, c, w) := by
  unfold tryNext
  rw [front]
  exact if_pos ended

/-! ## Draining -/

/-- A document that is handed out comes from the buffer or costs the script an answer. -/
theorem tryNext_cases {c c' : Cursor} {limits : Limits} {w w' : World} {d : Document}
    (h : c.tryNext limits w = (.ok (some d), c', w')) :
    w'.remaining < w.remaining ∨ (w' = w ∧ c'.buffer.length < c.buffer.length) := by
  fun_induction tryNext c limits w with
  | case1 c w d rest hb =>
    simp only [Prod.mk.injEq] at h
    refine Or.inr ⟨h.2.2.symm, ?_⟩
    rw [← h.2.1, hb]
    simp
  | case2 => simp at h
  | case3 c w hb open_ b c' w' ha ih =>
    rcases advance_cases ha with lt | ⟨same, ended⟩
    · rcases ih h with lt' | ⟨same, _⟩
      · exact Or.inl (Nat.lt_trans lt' lt)
      · exact Or.inl (same ▸ lt)
    · unfold advance at ha
      simp only [open_, Bool.false_eq_true, ↓reduceIte] at ha
      split at ha
      · simp only [Prod.mk.injEq] at ha
        rcases ih h with lt' | ⟨same', lt'⟩
        · exact Or.inl (same ▸ lt')
        · exact Or.inr ⟨same' ▸ same, by rw [← ha.2.1, hb] at lt'; simp at lt'⟩
      · split at ha
        · next hf =>
          have := remaining_of_fetch hf
          simp only [Prod.mk.injEq] at ha
          rw [ha.2.2, same] at this
          exact absurd this (Nat.lt_irrefl _)
        · simp at ha
        · simp at ha
  | case4 => simp at h

/-- All documents that are left, or the error that comes before the end. -/
def collect (c : Cursor) (limits : Limits) (w : World) :
    Except Halt (List Document) × Cursor × World :=
  match _pulled : c.tryNext limits w with
  | (.ok none, c', w') => (.ok [], c', w')
  | (.ok (some d), c', w') =>
    match c'.collect limits w' with
    | (.ok ds, c'', w'') => (.ok (d :: ds), c'', w'')
    | (.error h, c'', w'') => (.error h, c'', w'')
  | (.error h, c', w') => (.error h, c', w')
termination_by (w.remaining, c.buffer.length)
decreasing_by
  rcases tryNext_cases _pulled with lt | ⟨same, lt⟩
  · exact Prod.Lex.left _ _ lt
  · subst same
    exact Prod.Lex.right _ lt

/-- The documents of the cursor as a stream, one after the other, up to its end. -/
def stream (c : Cursor) (limits : Limits) (w : World) : (List Document × Ending) × Cursor × World :=
  match _pulled : c.tryNext limits w with
  | (.ok none, c', w') => (([], .finished), c', w')
  | (.ok (some d), c', w') =>
    match c'.stream limits w' with
    | ((ds, ending), c'', w'') => ((d :: ds, ending), c'', w'')
  | (.error h, c', w') => (([], .ofHalt h), c', w')
termination_by (w.remaining, c.buffer.length)
decreasing_by
  rcases tryNext_cases _pulled with lt | ⟨same, lt⟩
  · exact Prod.Lex.left _ _ lt
  · subst same
    exact Prod.Lex.right _ lt

/-- The first `count` documents of the cursor as a stream. -/
def take : (count : Nat) → Cursor → Limits → World → (List Document × Ending) × Cursor × World
  | 0, c, _, w => (([], .stopped), c, w)
  | count + 1, c, limits, w =>
    match c.tryNext limits w with
    | (.ok none, c', w') => (([], .finished), c', w')
    | (.ok (some d), c', w') =>
      match take count c' limits w' with
      | ((ds, ending), c'', w'') => ((d :: ds, ending), c'', w'')
    | (.error h, c', w') => (([], .ofHalt h), c', w')

/-! ## Closing -/

/-- Closes the cursor.  The remote side is told with one request if it still holds the result
set; closing again does nothing. -/
def close (c : Cursor) (limits : Limits) (w : World) : Except Halt Unit × Cursor × World :=
  let live := !c.state.isTerminal
  let c' := { c with buffer := [], state := .closed, cursorId := none }
  match c.cursorId with
  | some token =>
    if live then
      match c.connection.dispatch (some c.serial) (.bare "close")
          (c.origin.stateful .commandCursor token) limits w with
      | (.ok _, w) => (.ok (), c', w)
      | (.error h, w) => (.error h, c', w)
    else (.ok (), c', w)
  | none => (.ok (), c', w)

end Cursor

end RemoteDriver
