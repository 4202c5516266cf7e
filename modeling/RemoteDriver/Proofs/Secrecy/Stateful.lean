import RemoteDriver.Proofs.Closing.Streams
import RemoteDriver.Proofs.Secrecy.Handles
import RemoteDriver.Proofs.Surface.Overridden

/-!
# Cursors and change streams without access keys

A cursor or a change stream is used in loops, and each round makes at most one request by its
connection.  A loop does not read keys if its body reads none and if going on does not depend on
them (`redacts_of_rounds`).  So whatever is asked of a cursor or a change stream, keys have nothing
to do with it (`Cursor.own_redacts`, `ChangeStream.own_redacts`).
-/

namespace RemoteDriver

open Bson (Document Value)
open RemoteDriver.Action

/-! ## Uses of handles -/

/-- In a redacted world a redacted handle is used as it is with the key: the result, what becomes of
the handle and the world are the same without keys, which `f` and `g` take out. -/
def UseRedacts {α σ : Type} (f : α → α) (g : σ → σ)
    (t t' : Limits → World → α × σ × World) : Prop :=
  ∀ limits w, t' limits w.redacted
    = (f (t limits w).1, g (t limits w).2.1, (t limits w).2.2.redacted)

/-- A service that reads no keys. -/
abbrev ServiceRedacts (service service' : Service) : Prop :=
  UseRedacts (Except.map Result.redacted) (Option.map Handle.redacted) service service'

section uses

variable {α β σ : Type} {g : σ → σ} {turn : β → σ → Turn α}

/-- What is read of a result, and of what has become of the handle. -/
theorem UseRedacts.read {τ : Type} {f : α → α} {f' : β → β} {g' : τ → τ}
    {t t' : Limits → World → α × σ × World} (redacts : UseRedacts f g t t') (u : α → β) (v : σ → τ)
    (same : ∀ a, u (f a) = f' (u a)) (same' : ∀ s, v (g s) = g' (v s)) :
    UseRedacts f' g' (fun limits w => (u (t limits w).1, v (t limits w).2.1, (t limits w).2.2))
      fun limits w => (u (t' limits w).1, v (t' limits w).2.1, (t' limits w).2.2) := by
  intro limits w
  dsimp only
  rw [redacts, same, same']

/-- A use whose results are the same with and without keys. -/
theorem UseRedacts.plain {t t' : Limits → World → Except Halt α × σ × World}
    (redacts : UseRedacts id g t t') : UseRedacts (Except.map id) g t t' := by
  rw [Except.map_id]
  exact redacts

/-- What an action brings is a result and tells what becomes of the handle. -/
theorem UseRedacts.ofAction {t t' : Action β} (redacts : Redacts id t t')
    {u u' : Except Halt β → α × σ} (same : ∀ r, u' r = ((u r).1, g (u r).2)) :
    UseRedacts id g (fun limits w => ((u (t limits w).1).1, (u (t limits w).1).2, (t limits w).2))
      fun limits w => ((u' (t' limits w).1).1, (u' (t' limits w).1).2, (t' limits w).2) := by
  intro limits w
  dsimp only
  rw [redacts, Except.map_id, id_eq, same]
  rfl

/-- Going round reads no keys if that is so from the second time on. -/
theorem unrolled_redacts {body body' : Limits → World → β × σ × World}
    {t : σ → Limits → World → α × σ × World} {limits : Limits} {w : World}
    (blind : ∀ b s, turn b (g s) = turn b s) (redacts : UseRedacts id g body body')
    (next : ∀ b s w' f, body limits w = (b, s, w') → turn b s = .again f →
      t (g s) limits w'.redacted
        = ((t s limits w').1, g (t s limits w').2.1, (t s limits w').2.2.redacted)) :
    unrolled turn body' t limits w.redacted
      = ((unrolled turn body t limits w).1, g (unrolled turn body t limits w).2.1,
        (unrolled turn body t limits w).2.2.redacted) := by
  unfold unrolled
  rw [redacts]
  rcases ran : body limits w with ⟨b, s, w'⟩
  dsimp only [id]
  rw [blind]
  rcases again : turn b s with a | f
  · rfl
  · dsimp only
    rw [next b s w' f ran again]

/-- A loop reads no keys if its body reads none; rounds that are over at once are checked by
themselves. -/
theorem redacts_of_rounds (turn : β → σ → Turn α) (g : σ → σ) (rank : σ → World → Nat × Nat)
    {body : σ → Limits → World → β × σ × World} {t : σ → Limits → World → α × σ × World}
    (blind : ∀ b s, turn b (g s) = turn b s) (redacts : ∀ s, UseRedacts id g (body s) (body (g s)))
    (rounds : ∀ s, UseRedacts id g (t s) (t (g s))
      ∨ Round turn (body s) t rank s ∧ Round turn (body (g s)) t rank (g s)) (s : σ) :
    UseRedacts id g (t s) (t (g s)) := by
  have wf : WellFounded (Prod.Lex (· < ·) (· < ·) : Nat × Nat → Nat × Nat → Prop) :=
    WellFoundedRelation.wf
  intro limits w
  -- the induction is on how far the loop is from its end in the world with keys
  induction hr : rank s w using wf.induction generalizing s w with
  | _ r ih =>
    subst hr
    rcases rounds s with atOnce | ⟨round, round'⟩
    · exact atOnce limits w
    · rw [round.unrolls, round'.unrolls]
      refine unrolled_redacts blind (redacts s) fun b s' w' f ran again => ?_
      exact ih _ (round.falls limits w b s' w' f ran again) s' w' rfl

end uses

/-! ## Results without keys -/

/-- A result that is put into words. -/
theorem map_redacted {α : Type} {f : α → α} {u : α → Result}
    (same : ∀ a, u (f a) = (u a).redacted) (r : Except Halt α) :
    (r.map f).map u = (r.map u).map Result.redacted := by
  rcases r with h | a
  · rfl
  · exact congrArg Except.ok (same a)

section worded

variable {α σ : Type} {f : α → α} {g : σ → σ}

/-- A use whose result is put into words, where the handle stays one. -/
theorem UseRedacts.worded {t t' : Limits → World → Except Halt α × σ × World}
    (redacts : UseRedacts (Except.map f) g t t') {u : α → Result} {v : σ → Handle}
    (same : ∀ a, u (f a) = (u a).redacted) (same' : ∀ s, v (g s) = (v s).redacted) :
    ServiceRedacts
      (fun limits w => ((t limits w).1.map u, some (v (t limits w).2.1), (t limits w).2.2))
      fun limits w => ((t' limits w).1.map u, some (v (t' limits w).2.1), (t' limits w).2.2) :=
  redacts.read (Except.map u) (fun s => some (v s)) (map_redacted same)
    fun s => congrArg some (same' s)

variable {t t' : Limits → World → (List Document × Ending) × σ × World}

/-- A drain to the end uses the handle up. -/
theorem UseRedacts.drained (redacts : UseRedacts id g t t') : ServiceRedacts
    (fun limits w => ((t limits w).1.2.toDocuments (t limits w).1.1, none, (t limits w).2.2))
    fun limits w => ((t' limits w).1.2.toDocuments (t' limits w).1.1, none, (t' limits w).2.2) := by
  refine redacts.read (fun r => r.2.toDocuments r.1) (fun _ => none) ?_ fun _ => rfl
  rintro ⟨items, _ | _ | _⟩ <;> rfl

/-- So does a drain in part. -/
theorem UseRedacts.taken (redacts : UseRedacts id g t t') : ServiceRedacts
    (fun limits w => ((t limits w).1.2.toItems (t limits w).1.1, none, (t limits w).2.2))
    fun limits w => ((t' limits w).1.2.toItems (t' limits w).1.1, none, (t' limits w).2.2) := by
  refine redacts.read (fun r => r.2.toItems r.1) (fun _ => none) ?_ fun _ => rfl
  rintro ⟨items, _ | _ | _⟩ <;> rfl

end worded

/-! ## Cursors -/

namespace Cursor

variable (c : Cursor)

/-- A request for a batch reads no key. -/
theorem fetch_redacts (token : String) : Redacts id (c.fetch token) (c.redacted.fetch token) := by
  rw [fetch_eq, fetch_eq]
  exact (c.connection.dispatch_redacts _ _ _).check fun reply => reply.toCursor "get_more"

/-- A batch is taken in without a look at the key. -/
theorem advance_redacts : UseRedacts id redacted c.advance c.redacted.advance := by
  intro limits w
  unfold advance
  rw [show c.redacted.state = c.state from rfl, show c.redacted.cursorId = c.cursorId from rfl]
  by_cases ended : c.state.isTerminal = true
  · rw [if_pos ended, if_pos ended]
    rfl
  · rw [if_neg ended, if_neg ended]
    rcases c.cursorId with _ | token
    · rfl
    · dsimp only
      rw [fetch_redacts]
      rcases c.fetch token limits w with ⟨(e | _) | seed, w'⟩ <;> rfl

/-- The next document is fetched and handed out without a look at the key. -/
theorem tryNext_redacts : UseRedacts id redacted c.tryNext c.redacted.tryNext := by
  refine redacts_of_rounds nextTurn redacted
    (fun c w => (w.remaining, if c.state.isTerminal then 0 else 1)) (fun _ _ => rfl)
    advance_redacts (fun c => ?_) c
  rcases front : c.buffer with _ | ⟨d, rest⟩
  · by_cases ended : c.state.isTerminal = true
    · left
      intro limits w
      rw [tryNext_ended front ended, tryNext_ended (c := c.redacted) front ended]
      rfl
    · exact .inr ⟨tryNext_round front ended, tryNext_round front ended⟩
  · left
    intro limits w
    rw [tryNext_handed front, tryNext_handed (c := c.redacted) front]
    rfl

/-- Collecting reads no key. -/
theorem collect_redacts : UseRedacts id redacted c.collect c.redacted.collect :=
  redacts_of_rounds collectTurn redacted _ (fun _ _ => rfl) tryNext_redacts
    (fun c => .inr ⟨c.collect_round, c.redacted.collect_round⟩) c

/-- A stream of documents reads no key. -/
theorem stream_redacts : UseRedacts id redacted c.stream c.redacted.stream :=
  redacts_of_rounds drainTurn redacted _ (fun _ _ => rfl) tryNext_redacts
    (fun c => .inr ⟨c.stream_round, c.redacted.stream_round⟩) c

/-- Taking some documents reads no key. -/
theorem take_redacts (count : Nat) : UseRedacts id redacted (take count c)
    (take count c.redacted) := by
  induction count generalizing c with
  | zero => exact fun _ _ => rfl
  | succ count ih =>
    intro limits w
    rw [take_succ, take_succ]
    exact unrolled_redacts (fun _ _ => rfl) c.tryNext_redacts fun _ c' w' _ _ _ => ih c' limits w'

/-- Closing a cursor reads no key. -/
theorem close_redacts : UseRedacts id redacted c.close c.redacted.close := by
  intro limits w
  unfold close
  dsimp only
  rw [show c.redacted.cursorId = c.cursorId from rfl, show c.redacted.state = c.state from rfl]
  rcases c.cursorId with _ | token
  · rfl
  · dsimp only
    split
    · have farewell := c.connection.dispatch_redacts (some c.serial) (.bare "close")
        (c.origin.stateful .commandCursor token) limits w
      rw [show c.redacted.connection = c.connection.redacted from rfl,
        show c.redacted.serial = c.serial from rfl, show c.redacted.origin = c.origin from rfl,
        farewell]
      rcases c.connection.dispatch (some c.serial) (.bare "close")
        (c.origin.stateful .commandCursor token) limits w with ⟨h | reply, w'⟩ <;> rfl
    · rfl

/-- What a cursor itself makes of a call by name. -/
theorem answer_redacts (name : String) (args : List Value) (kwargs : Document) :
    UseRedacts (Except.map Outcome.redacted) redacted (c.answer name args kwargs)
      (c.redacted.answer name args kwargs) := by
  intro limits w
  unfold answer
  split
  · rfl
  split
  · rfl
  split
  · rfl
  split
  · rw [tryNext_redacts]
    rcases c.tryNext limits w with ⟨h | d, c', w'⟩ <;> rfl
  split
  · rw [close_redacts]
    rcases c.close limits w with ⟨h | _, c', w'⟩ <;> rfl
  split
  · cases sizeArgument args kwargs <;> rfl
  · rfl

/-- A call by name on a cursor reads no key. -/
theorem invoke_redacts (name : String) (args : List Value) (kwargs : Document) :
    UseRedacts (Except.map Outcome.redacted) redacted (c.invoke name args kwargs)
      (c.redacted.invoke name args kwargs) := by
  intro limits w
  unfold invoke
  rw [show c.redacted.gateway.resolve name args kwargs = c.gateway.resolve name args kwargs
    from rfl]
  rcases resolved : c.gateway.resolve name args kwargs with e | _ | _
  · rfl
  · exact absurd resolved (c.resolve_ne_remote name args kwargs)
  · exact c.answer_redacts name args kwargs limits w

/-- Nothing that is asked of a cursor depends on a key. -/
theorem own_redacts (command : Command) :
    Option.Rel ServiceRedacts (c.own? command) (c.redacted.own? command.redacted) := by
  have stays (c : Cursor) : Handle.cursor c.redacted = (Handle.cursor c).redacted := rfl
  cases command
  case invoke call into =>
    exact .some ((c.invoke_redacts call.name call.args call.kwargs).worded
      (Result.redacted_ofOutcome · into) stays)
  case look | describe | batchSize => exact .some fun _ _ => rfl
  case advance => exact .some (c.advance_redacts.plain.worded (fun _ => rfl) stays)
  case tryNext => exact .some (c.tryNext_redacts.plain.worded (fun _ => rfl) stays)
  case close => exact .some (c.close_redacts.plain.worded (fun _ => rfl) stays)
  case collect =>
    exact .some (c.collect_redacts.plain.read (Except.map Result.documents) (fun _ => none)
      (map_redacted fun _ => rfl) fun _ => rfl)
  case stream => exact .some c.stream_redacts.drained
  case take count => exact .some (c.take_redacts count).taken
  all_goals exact .none

end Cursor

/-! ## Change streams -/

/-- A close signal fires without a look at keys. -/
theorem World.fire_redacted (w : World) (subscription : Nat) :
    w.redacted.fire subscription = (w.fire subscription).redacted := by
  unfold fire
  rw [show w.redacted.hasFired subscription = w.hasFired subscription from rfl]
  split <;> rfl

namespace ChangeStream

variable (s : ChangeStream)

/-- A request for an event reads no key. -/
theorem fetch_redacts (token : String) (closing : Option Nat) :
    Redacts id (s.fetch token closing) (s.redacted.fetch token closing) := by
  rw [fetch_eq, fetch_eq]
  have call := s.connection.dispatch_redacts (some s.serial) (.bare "try_next")
    (s.origin.stateful .changeStream token)
  exact (redacts_interruptedAt (redacts_within call _ _) closing).check seed?

/-- A fetch that a close signal may break off reads no key. -/
theorem pull_redacts (token : String) : Redacts id (s.pull token) (s.redacted.pull token) :=
  fun limits w => s.fetch_redacts token (s.closingTime limits) limits w

/-- What a stream takes from an answer depends on no key. -/
theorem pulled_redacted (r : Except Halt (Option StreamSeed)) :
    s.redacted.pulled r = ((s.pulled r).1, (s.pulled r).2.redacted) := by
  rcases r with (e | _) | _ | seed
  · unfold pulled
    dsimp only
    split <;> rfl
  · rfl
  · rfl
  · rfl

/-- A fetch is made and taken in without a look at the key. -/
theorem pullNext_redacts : UseRedacts id redacted s.pullNext s.redacted.pullNext := by
  rcases held : s.streamId with _ | token
  · intro limits w
    rw [pullNext_none held, pullNext_none (s := s.redacted) held]
    rfl
  · intro limits w
    rw [pullNext_some held, pullNext_some (s := s.redacted) held]
    exact UseRedacts.ofAction (s.pull_redacts token) s.pulled_redacted limits w

/-- Asking once for an event reads no key. -/
theorem tryNext_redacts : UseRedacts id redacted s.tryNext s.redacted.tryNext := by
  intro limits w
  rcases held : s.pending with _ | event
  · by_cases ended : s.state = .closed
    · rw [tryNext_ended held ended, tryNext_ended (s := s.redacted) held ended]
      rfl
    · rw [tryNext_eq held ended, tryNext_eq (s := s.redacted) held ended,
        show w.redacted.hasFired s.redacted.serial = w.hasFired s.serial from rfl]
      split
      · rfl
      · exact s.pullNext_redacts limits w
  · rw [tryNext_pending held, tryNext_pending (s := s.redacted) held]
    rfl

/-- Waiting for an event reads no key. -/
theorem nextEvent_redacts : UseRedacts id redacted s.nextEvent s.redacted.nextEvent :=
  redacts_of_rounds eventTurn redacted _ (fun _ _ => rfl) tryNext_redacts
    (fun s => .inr ⟨s.nextEvent_round, s.redacted.nextEvent_round⟩) s

/-- A stream of events reads no key. -/
theorem stream_redacts : UseRedacts id redacted s.stream s.redacted.stream :=
  redacts_of_rounds drainTurn redacted _ (fun _ _ => rfl) nextEvent_redacts
    (fun s => .inr ⟨s.stream_round, s.redacted.stream_round⟩) s

/-- Taking some events reads no key. -/
theorem take_redacts (count : Nat) : UseRedacts id redacted (take count s)
    (take count s.redacted) := by
  induction count generalizing s with
  | zero => exact fun _ _ => rfl
  | succ count ih =>
    intro limits w
    rw [take_succ, take_succ]
    exact unrolled_redacts (fun _ _ => rfl) s.nextEvent_redacts fun _ s' w' _ _ _ => ih s' limits w'

/-- Closing a change stream reads no key. -/
theorem close_redacts : UseRedacts id redacted s.close s.redacted.close := by
  have part : UseRedacts id redacted s.part s.redacted.part := by
    intro limits w
    unfold ChangeStream.part
    rw [show s.redacted.streamId = s.streamId from rfl]
    rcases s.streamId with _ | token
    · rfl
    · have farewell : Redacts id (s.farewell token) (s.redacted.farewell token) :=
        s.connection.dispatch_redacts _ _ _
      have parted (r : Except Halt Reply) :
          s.redacted.parted r = ((s.parted r).1, (s.parted r).2.redacted) := rfl
      exact UseRedacts.ofAction farewell parted limits w
  intro limits w
  rw [close_eq, close_eq]
  dsimp only
  rw [show s.redacted.serial = s.serial from rfl, World.fire_redacted]
  exact part limits _

/-- What a change stream itself makes of a call by name. -/
theorem answer_redacts (name : String) :
    UseRedacts (Except.map Outcome.redacted) redacted (s.answer name) (s.redacted.answer name) := by
  intro limits w
  unfold answer
  dsimp only
  split
  · rfl
  split
  · rfl
  split
  · rw [tryNext_redacts]
    rcases s.tryNext limits w with ⟨h | d, s', w'⟩ <;> rfl
  split
  · rw [nextEvent_redacts]
    rcases s.nextEvent limits w with ⟨h | d, s', w'⟩ <;> rfl
  split
  · rw [close_redacts]
    rcases s.close limits w with ⟨h | _, s', w'⟩ <;> rfl
  · rfl

/-- A call by name on a change stream reads no key. -/
theorem invoke_redacts (name : String) (args : List Value) (kwargs : Document) :
    UseRedacts (Except.map Outcome.redacted) redacted (s.invoke name args kwargs)
      (s.redacted.invoke name args kwargs) := by
  intro limits w
  unfold invoke
  rw [show s.redacted.gateway.resolve name args kwargs = s.gateway.resolve name args kwargs
    from rfl]
  rcases resolved : s.gateway.resolve name args kwargs with e | _ | _
  · rfl
  · exact absurd resolved (s.resolve_ne_remote name args kwargs)
  · exact s.answer_redacts name limits w

/-- Nothing that is asked of a change stream depends on a key. -/
theorem own_redacts (command : Command) :
    Option.Rel ServiceRedacts (s.own? command) (s.redacted.own? command.redacted) := by
  have stays (s : ChangeStream) : Handle.changeStream s.redacted
      = (Handle.changeStream s).redacted := rfl
  cases command
  case invoke call into =>
    exact .some ((s.invoke_redacts call.name call.args call.kwargs).worded
      (Result.redacted_ofOutcome · into) stays)
  case look | describe | setTimeout | closeSignal => exact .some fun _ _ => rfl
  case tryNext => exact .some (s.tryNext_redacts.plain.worded (fun _ => rfl) stays)
  case nextEvent => exact .some (s.nextEvent_redacts.plain.worded (fun _ => rfl) stays)
  case close => exact .some (s.close_redacts.plain.worded (fun _ => rfl) stays)
  case stream => exact .some s.stream_redacts.drained
  case take count => exact .some (s.take_redacts count).taken
  all_goals exact .none

end ChangeStream

end RemoteDriver
