import RemoteDriver.Proofs.Cursor.Lifecycle

/-!
# Which tokens closing a cursor gives back

A cursor reports a token as long as it is neither exhausted nor closed (`Backed`), calls that were
given up included.  Closing tells the remote side of that token unless the state is terminal
(`posted_close`).  The two go together everywhere but after a failed fetch: the token stays, and the
state is terminal.

The main statement is `closing_gives_back_tokens`.  As long as no fetch has failed, closing a cursor
on an open client posts one request with the token that it reports, and nothing where it reports
none; once a fetch has failed, it still reports a token and closing it posts nothing.
-/

namespace RemoteDriver

/-- A state is not terminal unless it is one of three. -/
theorem CursorState.isTerminal_eq_false {s : CursorState} :
    s.isTerminal = false ↔ s ≠ .exhausted ∧ s ≠ .errored ∧ s ≠ .closed := by
  cases s <;> decide

namespace Cursor

/-! ## Tokens and states -/

/-- A cursor holds a token just if it is neither exhausted nor closed. -/
def Backed (c : Cursor) : Prop :=
  c.cursorId.isSome = true ↔ c.state ≠ .exhausted ∧ c.state ≠ .closed

/-- The state that a token leads to is backed by it. -/
theorem backed_of_after {c : Cursor} (state : c.state = .after c.cursorId) : c.Backed := by
  unfold Backed
  rw [state]
  cases c.cursorId <;> simp [CursorState.after]

/-- A reply opens a cursor that has neither failed nor been closed. -/
theorem state_ofSeed (connection : Connection) (origin : Route) (serial : Nat) (seed : CursorSeed) :
    (ofSeed connection origin serial seed).state ≠ .errored
      ∧ (ofSeed connection origin serial seed).state ≠ .closed := by
  unfold ofSeed
  cases seed.cursorId <;> simp [CursorState.after]

/-- A cursor that can still ask for documents has a token to ask with. -/
theorem Backed.of_open {c : Cursor} (backed : c.Backed) (isOpen : c.state.isTerminal = false) :
    c.cursorId.isSome = true := by
  obtain ⟨unspent, _, unclosed⟩ := CursorState.isTerminal_eq_false.mp isOpen
  exact backed.mpr ⟨unspent, unclosed⟩

/-- Asking for documents keeps it so, even where a request fails or is given up. -/
theorem Pull.backed {c c' : Cursor} {es : List Exchange} {r : Except Halt Unit}
    (pull : Pull c es r c') (backed : c.Backed) : c'.Backed := by
  induction pull with
  | rest | hand => exact backed
  | tokenless _ held => exact backed_of_after (by rw [held]; rfl)
  | refused isOpen | failed isOpen | abandoned isOpen =>
    exact iff_of_true (backed.of_open isOpen) (by simp)
  | more _ _ _ _ ih => exact ih (backed_of_after rfl)

/-- Whatever is asked of a cursor keeps it so. -/
theorem Served.backed {c c' : Cursor} {d : Demand} {es : List Exchange} {r : Except Halt Result}
    (served : Served c d es r c') (backed : c.Backed) : c'.Backed := by
  cases served with
  | still | sized => exact backed
  | pulled _ _ pull => exact pull.backed backed
  | parted => exact iff_of_false (by simp [Cursor.emptied]) (by simp [Cursor.emptied])

/-! ## Failed fetches -/

/-- A fetch among some calls has failed. -/
def FetchFailed (c : Cursor) : List (Occasion Demand) → Prop
  | [] => False
  | o :: os => (o.demand.Fetches c ∧ (c.entry o).Failed) ∨ (c.entry o).after.FetchFailed os

/-- A cursor is over once a fetch has failed or it has been closed. -/
def Spoilt (c : Cursor) : Prop := c.state = .errored ∨ c.state = .closed

/-- A spoilt cursor is at its end. -/
theorem Spoilt.terminal {c : Cursor} (spoilt : c.Spoilt) : c.state.isTerminal = true := by
  rcases spoilt with state | state <;> rw [state] <;> rfl

/-- Asking for documents leaves the state as it is, or it leads to a state other than closed, which
is errored only where the fetch fails. -/
theorem Pull.state {c c' : Cursor} {es : List Exchange} {r : Except Halt Unit}
    (pull : Pull c es r c') : c'.state = c.state
      ∨ (c'.state ≠ .closed ∧ (c'.state = .errored → ∃ err, r = .error (.failed err))) := by
  induction pull with
  | rest | hand => exact .inl rfl
  | tokenless | abandoned => exact .inr ⟨by simp, by simp⟩
  | refused | failed => exact .inr ⟨by simp, fun _ => ⟨_, rfl⟩⟩
  | @more c c' _ _ seed _ _ _ _ _ ih =>
    rcases ih with same | other
    · -- a batch leaves the cursor open or exhausted
      have after : c'.state = .after seed.cursorId := same
      refine .inr ?_
      rw [after]
      cases seed.cursorId <;> simp [CursorState.after]
    · exact .inr other

section served

variable {c c' : Cursor} {d : Demand} {es : List Exchange} {r : Except Halt Result}

/-- A cursor is closed by closing and becomes errored by a failed fetch only. -/
theorem Served.state (served : Served c d es r c') : c'.state = c.state
    ∨ (d.Closes c ∧ c'.state = .closed)
    ∨ (d.Fetches c ∧ c'.state ≠ .closed
      ∧ (c'.state = .errored → ∃ err, r = .error (.failed err))) := by
  cases served with
  | still | sized => exact .inl rfl
  | parted closes => exact .inr (.inl ⟨closes, rfl⟩)
  | pulled fetches _ pull =>
    rcases pull.state with same | ⟨live, fails⟩
    · exact .inl same
    · refine .inr (.inr ⟨fetches, live, fun errored => ?_⟩)
      obtain ⟨err, given⟩ := fails errored
      exact ⟨err, failed_of_map given⟩

/-- A failed fetch leaves the cursor errored. -/
theorem Served.failed (served : Served c d es r c') (fetches : d.Fetches c)
    (fails : ∃ err, r = .error (.failed err)) : c'.Spoilt := by
  obtain ⟨err, fails⟩ := fails
  rw [served.failing fetches fails]
  exact .inl rfl

/-- A cursor that is over stays so. -/
theorem Served.spoilt (served : Served c d es r c') (spoilt : c.Spoilt) : c'.Spoilt := by
  rcases (served.silent spoilt.terminal).2 with same | ⟨_, closed⟩
  · unfold Spoilt
    rw [same]
    exact spoilt
  · exact .inr closed

end served

/-- Once a fetch has failed, the cursor is errored or has been closed. -/
theorem spoilt_lived {c : Cursor} {os : List (Occasion Demand)} (failed : c.FetchFailed os) :
    (lived entry c os).Spoilt := by
  induction os generalizing c with
  | nil => exact failed.elim
  | cons o os ih =>
    rcases failed with ⟨fetches, failed⟩ | later
    · have spoilt := (c.entry_served o).failed fetches failed
      rw [lived]
      exact lived_keeps (fun c o _ => (c.entry_served o).spoilt) spoilt
    · exact ih later

/-- It is errored only if a fetch has failed. -/
theorem fetchFailed_of_errored {c : Cursor} {os : List (Occasion Demand)}
    (start : c.state ≠ .errored) (errored : (lived entry c os).state = .errored) :
    c.FetchFailed os := by
  induction os generalizing c with
  | nil => exact absurd errored start
  | cons o os ih =>
    by_cases now : (c.entry o).after.state = .errored
    · rcases (c.entry_served o).state with same | ⟨_, closed⟩ | ⟨fetches, _, fails⟩
      · exact absurd (same.symm.trans now) start
      · cases closed.symm.trans now
      · exact .inl ⟨fetches, fails now⟩
    · exact .inr (ih now errored)

/-! ## Closing -/

/-- A cursor that is not asked to close is not closed. -/
theorem not_closed_lived {c : Cursor} {os : List (Occasion Demand)} (live : c.state ≠ .closed)
    (stays : NeverCloses Demand.Closes os) : (lived entry c os).state ≠ .closed := by
  refine lived_keeps (P := fun c : Cursor => c.state ≠ .closed) (fun c o member live => ?_) live
  rcases (c.entry_served o).state with same | ⟨closes, _⟩ | ⟨_, other, _⟩
  · rw [same]
    exact live
  · exact absurd closes (stays o member c)
  · exact other

/-- What closing a cursor on an open client posts. -/
theorem posted_close (c : Cursor) (limits : Limits) {w : World}
    (isOpen : w.isClosed c.connection.client = false) :
    (c.close limits w).2.2.posted
      = w.posted ++ if c.state.isTerminal then [] else c.cursorId.toList.map fun token =>
          c.connection.request ⟨"close", [], [], c.origin.stateful .commandCursor token⟩ := by
  unfold close
  dsimp only
  split
  · next token held =>
    rw [held]
    rcases ended : c.state.isTerminal with _ | _
    · rcases c.connection.dispatch_refused_or_sent (some c.serial) (.bare "close")
          (c.origin.stateful .commandCursor token) limits w
        with ⟨err, refuses, hd⟩ | ⟨e, w', carries, sends, hd⟩
      · cases isOpen.symm.trans refuses.bare
      · have posted := sends.posted
        rw [List.map_singleton, carries.bare] at posted
        rw [hd]
        cases e.result c.connection.codec .abandoned <;> exact posted
    · exact (List.append_nil _).symm
  · next held =>
    rw [held]
    split <;> exact (List.append_nil _).symm

/-- Which tokens closing a cursor gives back, from any seed and after any calls, given up or not,
whatever came back for their requests.  As long as no fetch has failed, closing it on an open client
posts one request with the token that it reports, and nothing where it reports none.  Once a fetch
has failed, closing it posts nothing, and unless it has been closed it reports a token all the
same. -/
theorem closing_gives_back_tokens (connection : Connection) (origin : Route) (serial : Nat)
    (seed : CursorSeed) (os : List (Occasion Demand)) (limits : Limits) (w : World)
    (isOpen : w.isClosed connection.client = false) :
    let first := ofSeed connection origin serial seed
    let c := lived entry first os
    let posted := (c.close limits w).2.2.posted
    (c.cursorId = none → posted = w.posted)
      ∧ (¬ first.FetchFailed os → ∀ token, c.cursorId = some token →
        posted = w.posted
          ++ [connection.request ⟨"close", [], [], origin.stateful .commandCursor token⟩])
      ∧ (first.FetchFailed os → posted = w.posted
        ∧ (NeverCloses Demand.Closes os → c.cursorId.isSome = true)) := by
  intro first c posted
  obtain ⟨connection_eq, origin_eq⟩ : c.connection = connection ∧ c.origin = origin :=
    lived_keeps (P := fun c : Cursor => c.connection = connection ∧ c.origin = origin)
      (fun c o _ same => ⟨(c.entry_served o).same.1.trans same.1,
        (c.entry_served o).same.2.trans same.2⟩) ⟨rfl, rfl⟩
  have backed : c.Backed :=
    lived_keeps (fun c o _ => (c.entry_served o).backed) (backed_of_after rfl)
  have told := c.posted_close limits (w := w) (by rw [connection_eq]; exact isOpen)
  rw [connection_eq, origin_eq] at told
  refine ⟨fun none => ?_, fun sound token held => ?_, fun failed => ⟨?_, fun stays => ?_⟩⟩
  · rw [none, Option.toList_none, List.map_nil, ite_self, List.append_nil] at told
    exact told
  · have live : c.state ≠ .errored := fun errored =>
      sound (fetchFailed_of_errored (state_ofSeed connection origin serial seed).1 errored)
    obtain ⟨unspent, unclosed⟩ := backed.mp (by rw [held]; rfl)
    have going := CursorState.isTerminal_eq_false.mpr ⟨unspent, live, unclosed⟩
    rw [going, if_neg Bool.false_ne_true, held] at told
    exact told
  · rw [(spoilt_lived failed).terminal, if_pos rfl, List.append_nil] at told
    exact told
  · have kept := not_closed_lived (state_ofSeed connection origin serial seed).2 stays
    rcases spoilt_lived failed with errored | closed
    · exact backed.mpr ⟨by rw [errored]; decide, kept⟩
    · exact absurd closed kept

/-- A cursor that goes on with another token gives back that one; a cursor whose fetch was answered
with a value gives back none. -/
theorem answered_cursor_gives_back_its_token :
    let endpoint : Endpoint := ⟨⟨[], none, .bare [], none, none⟩, []⟩
    let connection : Connection := ⟨0, endpoint, .relaxed, 0⟩
    let first := ofSeed connection .client 0 ⟨some "s", [], none⟩
    let w := World.start (.ofScript [])
    let batch : Json := .object [("kind", .string "cursor"),
      ("payload", .object [("cursor_id", .string "t"), ("batch", .array [])])]
    let fed : List (Occasion Demand) := [⟨.batchSize 2, ⟨0, none⟩, w⟩,
      ⟨.advance, ⟨0, none⟩, World.start (.ofScript [("get_more", ⟨some (.body batch), 0⟩)])⟩]
    let failed : List (Occasion Demand) := [⟨.advance, ⟨0, none⟩, w⟩]
    ((lived entry first fed).close ⟨0, none⟩ w).2.2.posted
        = [connection.request ⟨"close", [], [], Route.client.stateful .commandCursor "t"⟩]
      ∧ ((lived entry first failed).close ⟨0, none⟩ w).2.2.posted = []
      ∧ (lived entry first failed).cursorId.isSome = true := by
  intro endpoint connection first w batch fed failed
  have sound : ¬ first.FetchFailed fed := by
    rintro (⟨idle, _⟩ | ⟨_, fails⟩ | none)
    · exact idle
    · exact absurd fails (by decide +kernel)
    · exact none
  have held : (lived entry first fed).cursorId = some "t" := by decide +kernel
  have fails : first.FetchFailed failed := .inl ⟨trivial, by decide +kernel⟩
  have gives (os : List (Occasion Demand)) :=
    closing_gives_back_tokens connection .client 0 ⟨some "s", [], none⟩ os ⟨0, none⟩ w rfl
  obtain ⟨nothing, kept⟩ := (gives failed).2.2 fails
  exact ⟨(gives fed).2.1 sound "t" held, nothing,
    kept (by simp [failed, NeverCloses, Demand.Closes])⟩

/-- A cursor whose fetch comes to a reset connection reports its token, and closing it discards that
token without a word to the remote side. -/
theorem reset_cursor_discards_its_token :
    let endpoint : Endpoint := ⟨⟨[], none, .bare [], none, none⟩, []⟩
    let connection : Connection := ⟨0, endpoint, .relaxed, 30000⟩
    let reset := World.start (.ofScript [("get_more", ⟨some (.unreachable "connection reset"), 0⟩)])
    let c := lived entry (ofSeed connection .client 0 ⟨some "t", [], none⟩)
      [⟨.advance, ⟨0, none⟩, reset⟩]
    let w := World.start (.ofScript [])
    w.isClosed c.connection.client = false ∧ c.cursorId = some "t"
      ∧ (c.close ⟨0, none⟩ w).2.1.cursorId = none ∧ (c.close ⟨0, none⟩ w).2.2.posted = [] := by
  intro endpoint connection reset c w
  exact ⟨rfl, by decide +kernel, rfl, List.isEmpty_iff.mp (by decide +kernel)⟩

end Cursor

end RemoteDriver
