import RemoteDriver.Proofs.Closing.Handles
import RemoteDriver.Proofs.Closing.Loops

/-!
# Cursors and closed clients

A cursor reaches the remote side by fetching a batch and by being closed, and both are calls.  All
else that is done with it goes round in loops of these.
-/

namespace RemoteDriver

open Bson (Document Value)

/-! ## Draining -/

/-- The error that a drain ended with. -/
def Ending.failure? : Ending → Option Error
  | failed e => some e
  | _ => none

/-- How a drain goes on: what is handed out is put before the rest. -/
def drainTurn {σ : Type} (r : Except Halt (Option Document)) (_ : σ) :
    Turn (List Document × Ending) :=
  match r with
  | .ok none => .stop ([], .finished)
  | .ok (some d) => .again fun rest => (d :: rest.1, rest.2)
  | .error h => .stop ([], .ofHalt h)

/-- An error ends a drain. -/
theorem passes_drainTurn (σ : Type) :
    Passes (σ := σ) failure? (fun r : List Document × Ending => r.2.failure?) drainTurn := by
  constructor
  · rintro ((e' | _) | _ | d) s e failed _
    · exact ⟨_, rfl, failed⟩
    · cases failed
    · cases failed
    · cases failed
  · rintro ((e' | _) | _ | d) s f a e again failed
    · cases again
    · cases again
    · cases again
    · cases again
      exact failed

namespace Cursor

open RemoteDriver.Action

variable {k : Connection} {c : Cursor}

/-! ## Fetching -/

/-- A fetch is a call and the reading of its reply. -/
theorem fetch_eq (c : Cursor) (token : String) :
    c.fetch token = (do
      let reply ← c.connection.dispatch (some c.serial) c.getMore
        (c.origin.stateful .commandCursor token)
      Action.ofExcept (reply.toCursor "get_more")) := by
  funext limits w
  rw [bind_eq_resumed]
  unfold fetch resumed
  rcases c.connection.dispatch (some c.serial) c.getMore (c.origin.stateful .commandCursor token)
    limits w with ⟨_ | reply, w'⟩
  · rfl
  · dsimp only
    cases reply.toCursor "get_more" <;> rfl

/-- A fetch is a call on the client of the cursor. -/
theorem fetch_gated (c : Cursor) (token : String) :
    (c.fetch token).Gated c.connection.client fun _ => True := by
  rw [fetch_eq]
  exact gated_read (c.connection.dispatch_gated _ _ _)

/-- What a batch, or its failure, comes to. -/
def fetched (c : Cursor) : Except Halt CursorSeed → Except Halt Bool × Cursor
  | .ok seed => (.ok (!seed.batch.isEmpty), c.continued seed)
  | .error (.failed e) => (.error (.failed e), { c with state := .errored })
  | .error .abandoned => (.error .abandoned, { c with state := .advancing })

/-- What an answer does to a cursor leaves its connection. -/
theorem connection_fetched (c : Cursor) (r : Except Halt CursorSeed) :
    (c.fetched r).2.connection = c.connection := by
  rcases r with (_ | _) | _ <;> rfl

/-- Fetching a batch is gated by the client. -/
theorem advance_gated (own : c.connection = k) :
    GatedUse k.client failure? (fun c => c.connection = k) c.advance := by
  by_cases ended : c.state.isTerminal = true
  · refine IsOver.gated ⟨.ok false, c, own, fun limits w => ?_⟩
    unfold advance
    rw [if_pos ended]
  · rcases held : c.cursorId with _ | token
    · refine IsOver.gated ⟨.ok false, { c with state := .exhausted }, own, fun limits w => ?_⟩
      unfold advance
      rw [if_neg ended, held]
    · have same : c.advance = fun limits w => ((c.fetched (c.fetch token limits w).1).1,
          (c.fetched (c.fetch token limits w).1).2, (c.fetch token limits w).2) := by
        funext limits w
        unfold advance
        rw [if_neg ended]
        split
        · next none =>
          rw [held] at none
          cases none
        · next token' some =>
          rw [held] at some
          cases some
          rcases c.fetch token limits w with ⟨(_ | _) | _, _⟩ <;> rfl
      rw [same, ← own]
      apply GatedUse.ofAction (c.fetch_gated token) c.connection_fetched
      rintro ((e' | _) | seed) e failed
      · exact failed
      · cases failed
      · cases failed

/-! ## Handing out -/

/-- How it goes on after an advance. -/
def nextTurn (r : Except Halt Bool) (_ : Cursor) : Turn (Except Halt (Option Document)) :=
  match r with
  | .ok _ => .again id
  | .error h => .stop (.error h)

/-- Asking for the next document ends in the failure of the fetch that it stops at. -/
theorem passes_nextTurn : Passes failure? failure? nextTurn := by
  constructor
  · rintro ((e' | _) | b) s e failed _
    · exact ⟨.error (.failed e'), rfl, failed⟩
    · cases failed
    · cases failed
  · rintro ((e' | _) | b) s f a e again failed
    · cases again
    · cases again
    · cases again
      exact failed

/-- A cursor with nothing to hand out goes round as long as it has not ended. -/
theorem tryNext_round (front : c.buffer = []) (going : ¬ c.state.isTerminal = true) :
    Round nextTurn c.advance tryNext
      (fun c w => (w.remaining, if c.state.isTerminal then 0 else 1)) c := by
  constructor
  · intro limits w
    rw [tryNext, front]
    dsimp only
    rw [if_neg going]
    unfold unrolled nextTurn
    rcases c.advance limits w with ⟨_ | b, c', w'⟩ <;> rfl
  · intro limits w b c' w' f ha again
    rcases b with h | b
    · cases again
    · rcases advance_cases ha with less | ⟨same, atEnd⟩
      · exact .left _ _ less
      · rw [same, if_neg going, if_pos atEnd]
        exact .right _ Nat.zero_lt_one

/-- The next document is there, or it is fetched in rounds, each of which takes an answer or ends
the cursor. -/
theorem tryNext_rounds (own : c.connection = k) :
    IsOver (fun c => c.connection = k) c.tryNext
      ∨ Round nextTurn c.advance tryNext
        (fun c w => (w.remaining, if c.state.isTerminal then 0 else 1)) c := by
  rcases front : c.buffer with _ | ⟨d, rest⟩
  · by_cases ended : c.state.isTerminal = true
    · exact .inl ⟨.ok none, c, own, tryNext_ended front ended⟩
    · exact .inr (tryNext_round front ended)
  · exact .inl ⟨.ok (some d), { c with buffer := rest }, own, tryNext_handed front⟩

/-- Asking for the next document is gated by the client, unless one is there. -/
theorem tryNext_gated (own : c.connection = k) :
    GatedUse k.client failure? (fun c => c.connection = k) c.tryNext :=
  gated_of_rounds (fun _ => advance_gated) passes_nextTurn (fun _ => tryNext_rounds) c own

/-! ## Draining cursors -/

/-- How collecting goes on. -/
def collectTurn (r : Except Halt (Option Document)) (_ : Cursor) :
    Turn (Except Halt (List Document)) :=
  match r with
  | .ok none => .stop (.ok [])
  | .ok (some d) => .again (·.map (d :: ·))
  | .error h => .stop (.error h)

/-- Collecting ends in the failure of the step that it stops at. -/
theorem passes_collectTurn : Passes failure? failure? collectTurn := by
  constructor
  · rintro ((e' | _) | _ | d) s e failed _
    · exact ⟨.error (.failed e'), rfl, failed⟩
    · cases failed
    · cases failed
    · cases failed
  · rintro ((e' | _) | _ | d) s f a e again failed
    · cases again
    · cases again
    · cases again
    · cases again
      rw [failure?_map]
      exact failed

/-- A document that is handed out leaves less to drain. -/
theorem falls_of_handed {limits : Limits} {w w' : World} {c' : Cursor} {d : Document}
    (h : c.tryNext limits w = (.ok (some d), c', w')) :
    Prod.Lex (· < ·) (· < ·) (w'.remaining, c'.buffer.length) (w.remaining, c.buffer.length) := by
  rcases tryNext_cases h with less | ⟨same, less⟩
  · exact .left _ _ less
  · rw [same]
    exact .right _ less

/-- Collecting hands documents out one by one, each from an answer or from the buffer. -/
theorem collect_round (c : Cursor) : Round collectTurn c.tryNext collect
    (fun c w => (w.remaining, c.buffer.length)) c := by
  constructor
  · intro limits w
    rw [collect]
    unfold unrolled collectTurn
    rcases c.tryNext limits w with ⟨_ | _ | d, c', w'⟩
    · rfl
    · rfl
    · dsimp only
      rcases c'.collect limits w' with ⟨_ | ds, c'', w''⟩ <;> rfl
  · intro limits w r c' w' f pulled again
    rcases r with h | _ | d
    · cases again
    · cases again
    · exact falls_of_handed pulled

/-- Collecting is gated by the client. -/
theorem collect_gated (own : c.connection = k) :
    GatedUse k.client failure? (fun c => c.connection = k) c.collect :=
  gated_of_rounds (fun _ => tryNext_gated) passes_collectTurn (fun c _ => .inr c.collect_round)
    c own

/-- A stream hands documents out one by one, each from an answer or from the buffer. -/
theorem stream_round (c : Cursor) : Round drainTurn c.tryNext stream
    (fun c w => (w.remaining, c.buffer.length)) c := by
  constructor
  · intro limits w
    rw [stream]
    unfold unrolled drainTurn
    rcases c.tryNext limits w with ⟨_ | _ | d, c', w'⟩ <;> rfl
  · intro limits w r c' w' f pulled again
    rcases r with h | _ | d
    · cases again
    · cases again
    · exact falls_of_handed pulled

/-- A stream of documents is gated by the client. -/
theorem stream_gated (own : c.connection = k) :
    GatedUse k.client (fun r => r.2.failure?) (fun c => c.connection = k) c.stream :=
  gated_of_rounds (fun _ => tryNext_gated) (passes_drainTurn Cursor)
    (fun c _ => .inr c.stream_round)
    c own

/-- Taking one more document is asking for it and then taking the rest. -/
theorem take_succ (count : Nat) (c : Cursor) :
    take (count + 1) c = unrolled drainTurn c.tryNext (take count) := by
  funext limits w
  rw [take]
  unfold unrolled drainTurn
  rcases c.tryNext limits w with ⟨_ | _ | d, c', w'⟩ <;> rfl

/-- Taking some documents is gated by the client. -/
theorem take_gated (count : Nat) (own : c.connection = k) :
    GatedUse k.client (fun r => r.2.failure?) (fun c => c.connection = k) (take count c) := by
  induction count generalizing c with
  | zero => exact IsOver.gated ⟨([], .stopped), c, own, fun _ _ => rfl⟩
  | succ count ih =>
    rw [take_succ]
    exact gated_unrolled (tryNext_gated own) (passes_drainTurn Cursor) fun _ => ih

/-! ## Closing -/

/-- A cursor that has been closed. -/
def emptied (c : Cursor) : Cursor := { c with buffer := [], state := .closed, cursorId := none }

/-- The call that tells the remote side that a cursor is closed. -/
def farewell (c : Cursor) (token : String) : Action Reply :=
  c.connection.dispatch (some c.serial) (.bare "close") (c.origin.stateful .commandCursor token)

/-- What closing comes to where the remote side is told. -/
def parted (c : Cursor) (r : Except Halt Reply) : Except Halt Unit × Cursor :=
  (r.map fun _ => (), c.emptied)

/-- Closing a cursor is gated by the client. -/
theorem close_gated (own : c.connection = k) :
    GatedUse k.client failure? (fun c => c.connection = k) c.close := by
  have quiet (same : ∀ limits w, c.close limits w = (.ok (), c.emptied, w)) :
      GatedUse k.client failure? (fun c => c.connection = k) c.close :=
    IsOver.gated ⟨.ok (), c.emptied, own, same⟩
  rcases held : c.cursorId with _ | token
  · apply quiet
    intro limits w
    unfold close
    rw [held]
    rfl
  · by_cases ended : c.state.isTerminal = true
    · apply quiet
      intro limits w
      unfold close
      rw [held, ended]
      rfl
    · have same : c.close = fun limits w => ((c.parted (c.farewell token limits w).1).1,
          (c.parted (c.farewell token limits w).1).2, (c.farewell token limits w).2) := by
        funext limits w
        simp only [Bool.not_eq_true] at ended
        unfold close farewell
        rw [held, ended]
        dsimp only
        rcases c.connection.dispatch (some c.serial) (.bare "close")
          (c.origin.stateful .commandCursor token) limits w with ⟨_ | _, _⟩ <;> rfl
      rw [same, ← own]
      refine GatedUse.ofAction (c.connection.dispatch_gated _ _ _) (fun _ => rfl) ?_
      intro r e failed
      unfold parted
      rw [failure?_map]
      exact failed

end Cursor

end RemoteDriver
