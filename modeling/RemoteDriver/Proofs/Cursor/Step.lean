import RemoteDriver.Proofs.Surface.Overridden
import RemoteDriver.Proofs.Transcript

/-!
# What happens to a cursor until it is closed

Whatever is asked of a cursor short of closing it comes down to four steps: a document leaves the
buffer, a batch is asked for, the size of batches is set, or the cursor notices that it has come
to its end.  `Step` lists them, with what they leave in the history of the cursor, and `Path` is
any number of them.

Each operation is shown once to be a path whose exchanges are those of its transcript
(`advance_path`, `tryNext_path`, `invoke_path`); what holds along paths then holds of every
operation.
-/

namespace RemoteDriver

open Bson (Document Value)

/-- The part of a result set that an exchange brought, or why it brought none. -/
def Exchange.part (codec : Codec) (e : Exchange) : Except Halt CursorSeed :=
  match e.result codec .abandoned with
  | .ok reply =>
    match reply.toCursor e.request.envelope.operation with
    | .ok seed => .ok seed
    | .error err => .error (.failed err)
  | .error h => .error h

/-- A document that a call by name comes out as. -/
def Outcome.document? : Outcome → Option Document
  | .value (.document d) => some d
  | _ => none

/-- A document goes through the outcome of a call unharmed. -/
theorem Outcome.document?_ofDocument? (d : Option Document) :
    (Outcome.value (Outcome.ofDocument? d)).document? = d := by
  cases d <;> rfl

namespace Cursor

open World (Sends)

/-! ## Steps -/

/-- What the history of a cursor is made of. -/
inductive Event
  /-- A document was handed out. -/
  | handed (d : Document)
  /-- A batch was asked for. -/
  | exchanged (e : Exchange)
  /-- The size of batches was set. -/
  | limited (size : Nat)

/-- The cursor after an exchange about the next batch. -/
def told (c : Cursor) (e : Exchange) : Cursor :=
  match e.part c.connection.codec with
  | .ok seed => c.continued seed
  | .error (.failed _) => { c with state := .errored }
  | .error .abandoned => { c with state := .advancing }

/-- A part of the result set carries a cursor on. -/
theorem told_of_part {c : Cursor} {e : Exchange} {seed : CursorSeed}
    (h : e.part c.connection.codec = .ok seed) : c.told e = c.continued seed := by
  rw [told, h]

/-- A failure spoils a cursor. -/
theorem told_of_failed {c : Cursor} {e : Exchange} {err : Error}
    (h : e.part c.connection.codec = .error (.failed err)) :
    c.told e = { c with state := .errored } := by
  rw [told, h]

/-- A cursor whose caller stops waiting stays at its fetch. -/
theorem told_of_abandoned {c : Cursor} {e : Exchange}
    (h : e.part c.connection.codec = .error .abandoned) :
    c.told e = { c with state := .advancing } := by
  rw [told, h]

/-- One step of a cursor, with what it adds to the history. -/
inductive Step (c : Cursor) : List Event → Cursor → Prop
  /-- The first document of the buffer is handed out. -/
  | hand (d : Document) (rest : List Document) (front : c.buffer = d :: rest) :
      Step c [.handed d] { c with buffer := rest }
  /-- A batch is asked for with the token that is held. -/
  | ask (token : String) (w : World) (e : Exchange) (isOpen : c.state.isTerminal = false)
      (held : c.cursorId = some token)
      (carries : c.connection.Carries c.getMore (c.origin.stateful .commandCursor token) w e) :
      Step c [.exchanged e] (c.told e)
  /-- The size of batches is set. -/
  | limit (size : Nat) : Step c [.limited size] (c.withBatchSize size)
  /-- No request can be made any more. -/
  | settle (s : CursorState) (isOpen : c.state.isTerminal = false) (ended : s.isTerminal = true) :
      Step c [] { c with state := s }

/-- Any number of steps, with the history of all of them. -/
inductive Path (c : Cursor) : List Event → Cursor → Prop
  /-- Nothing happens. -/
  | refl : Path c [] c
  /-- One more step. -/
  | snoc {h h' : List Event} {c' c'' : Cursor} (path : Path c h c') (step : Step c' h' c'') :
      Path c (h ++ h') c''

/-- A step is a path. -/
theorem Step.path {c c' : Cursor} {h : List Event} (step : Step c h c') : Path c h c' :=
  Path.snoc .refl step

/-- Two paths one after the other are one. -/
theorem Path.trans {c c' c'' : Cursor} {h h' : List Event} (first : Path c h c')
    (second : Path c' h' c'') : Path c (h ++ h') c'' := by
  induction second with
  | refl => simpa using first
  | snoc _ step ih =>
    rw [← List.append_assoc]
    exact Path.snoc ih step

/-- Steps change neither the connection of a cursor nor where it was opened nor its number. -/
theorem Step.same {c c' : Cursor} {h : List Event} (step : Step c h c') :
    c'.connection = c.connection ∧ c'.origin = c.origin ∧ c'.serial = c.serial := by
  cases step with
  | hand | limit | settle => exact ⟨rfl, rfl, rfl⟩
  | ask token w e =>
    unfold told
    split <;> exact ⟨rfl, rfl, rfl⟩

/-- What a cursor is made of stays along a path. -/
theorem Path.same {c c' : Cursor} {h : List Event} (path : Path c h c') :
    c'.connection = c.connection ∧ c'.origin = c.origin ∧ c'.serial = c.serial := by
  induction path with
  | refl => exact ⟨rfl, rfl, rfl⟩
  | snoc _ step ih =>
    obtain ⟨hc, ho, hs⟩ := step.same
    exact ⟨hc.trans ih.1, ho.trans ih.2.1, hs.trans ih.2.2⟩

/-! ## Fetching -/

/-- The operation of the call that fetches a batch. -/
theorem name_getMore (c : Cursor) : c.getMore.name = "get_more" := by
  unfold getMore
  split <;> rfl

/-- A fetch is refused on the spot or has one exchange, which is its result. -/
theorem fetch_refused_or_sent (c : Cursor) (token : String) (limits : Limits) (w : World) :
    (∃ err, c.connection.Refuses c.getMore (c.origin.stateful .commandCursor token) w err
        ∧ c.fetch token limits w = (.error (.failed err), w))
      ∨ ∃ e w',
          c.connection.Carries c.getMore (c.origin.stateful .commandCursor token) w e
          ∧ Sends (some c.serial) (fun _ => limits.deadline) w [e] w'
          ∧ c.fetch token limits w = (e.part c.connection.codec, w') := by
  unfold fetch
  rcases c.connection.dispatch_refused_or_sent (some c.serial) c.getMore
      (c.origin.stateful .commandCursor token) limits w
    with ⟨err, refuses, hd⟩ | ⟨e, w', carries, sends, hd⟩
  · exact Or.inl ⟨err, refuses, by rw [hd]⟩
  · refine Or.inr ⟨e, w', carries, sends, ?_⟩
    have named : e.request.envelope.operation = "get_more" :=
      carries.operation.trans c.name_getMore
    rw [hd]
    unfold Exchange.part
    rw [named]
    cases e.result c.connection.codec .abandoned with
    | error h => rfl
    | ok reply =>
      dsimp only
      cases reply.toCursor "get_more" <;> rfl

/-- What an advance comes to. -/
inductive Advanced (c : Cursor) (limits : Limits) (w : World)
    (r : Except Halt Bool × Cursor × World) : Prop
  /-- The cursor is at its end, and stays as it is. -/
  | spent (ended : c.state.isTerminal = true) (result : r = (.ok false, c, w))
  /-- The cursor holds no token to ask with. -/
  | tokenless (isOpen : c.state.isTerminal = false) (held : c.cursorId = none)
      (result : r = (.ok false, { c with state := .exhausted }, w))
  /-- The request is refused on the spot. -/
  | refused (token : String) (err : Error) (isOpen : c.state.isTerminal = false)
      (held : c.cursorId = some token)
      (refuses : c.connection.Refuses c.getMore (c.origin.stateful .commandCursor token) w err)
      (result : r = (.error (.failed err), { c with state := .errored }, w))
  /-- The request is posted. -/
  | sent (token : String) (e : Exchange) (w' : World) (isOpen : c.state.isTerminal = false)
      (held : c.cursorId = some token)
      (carries : c.connection.Carries c.getMore (c.origin.stateful .commandCursor token) w e)
      (sends : Sends (some c.serial) (fun _ => limits.deadline) w [e] w')
      (result : r = ((e.part c.connection.codec).map (!·.batch.isEmpty), c.told e, w'))

/-- A fetch is one of the four things that it can be. -/
theorem advanced (c : Cursor) (limits : Limits) (w : World) :
    Advanced c limits w (c.advance limits w) := by
  unfold advance
  split
  · next ended => exact .spent ended rfl
  · next isOpen =>
    simp only [Bool.not_eq_true] at isOpen
    split
    · next held => exact .tokenless isOpen held rfl
    · next token held =>
      rcases c.fetch_refused_or_sent token limits w
        with ⟨err, refuses, hf⟩ | ⟨e, w', carries, sends, hf⟩
      · exact .refused token err isOpen held refuses (by rw [hf])
      · refine .sent token e w' isOpen held carries sends ?_
        rw [hf]
        unfold told
        rcases e.part c.connection.codec with (err | _) | seed <;> rfl

/-! ## Operations as paths -/

/-- What a result with an optional document adds to the history. -/
def handing : Except Halt (Option Document) → List Event
  | .ok (some d) => [.handed d]
  | _ => []

/-- An advance is a path with at most one exchange. -/
theorem advance_path (c : Cursor) (limits : Limits) (w : World) :
    ∃ es, Sends (some c.serial) (fun _ => limits.deadline) w es (c.advance limits w).2.2
      ∧ Path c (es.map .exchanged) (c.advance limits w).2.1 := by
  cases c.advanced limits w with
  | spent ended result =>
    rw [result]
    exact ⟨[], .nil _ _ _, .refl⟩
  | tokenless isOpen held result =>
    rw [result]
    exact ⟨[], .nil _ _ _, (Step.settle .exhausted isOpen rfl).path⟩
  | refused token err isOpen held refuses result =>
    rw [result]
    exact ⟨[], .nil _ _ _, (Step.settle .errored isOpen rfl).path⟩
  | sent token e w' isOpen held carries sends result =>
    rw [result]
    exact ⟨[e], sends, (Step.ask token w e isOpen held carries).path⟩

/-- Handing out the next document is a path: any number of exchanges, and then the document if
there is one. -/
theorem tryNext_path (c : Cursor) (limits : Limits) (w : World) :
    ∃ es, Sends (some c.serial) (fun _ => limits.deadline) w es (c.tryNext limits w).2.2
      ∧ Path c (es.map .exchanged ++ handing (c.tryNext limits w).1)
        (c.tryNext limits w).2.1 := by
  fun_induction tryNext c limits w with
  | case1 c w d rest front => exact ⟨[], .nil _ _ _, (Step.hand d rest front).path⟩
  | case2 c w empty ended => exact ⟨[], .nil _ _ _, .refl⟩
  | case3 c w empty isOpen b c' w' ha ih =>
    obtain ⟨es, sends, path⟩ := c.advance_path limits w
    rw [ha] at sends path
    obtain ⟨es', sends', path'⟩ := ih
    rw [path.same.2.2] at sends'
    refine ⟨es ++ es', sends.trans sends', ?_⟩
    rw [List.map_append, List.append_assoc]
    exact path.trans path'
  | case4 c w empty isOpen h c' w' ha =>
    obtain ⟨es, sends, path⟩ := c.advance_path limits w
    rw [ha] at sends path
    exact ⟨es, sends, by simpa [handing] using path⟩

end Cursor

end RemoteDriver
