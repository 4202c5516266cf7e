import RemoteDriver.Proofs.Cursor.Step
import RemoteDriver.Proofs.Failure.Calls

/-!
# Failures of cursors

A cursor asks for one batch after the other, and each request is refused exactly where the first
would have been: the size of batches stays as it is meanwhile, and so does the client.  So a loop of
fetches fails by misuse only if it has posted nothing.
-/

namespace RemoteDriver

open Bson (Document Value)
open World (Sends)

/-! ## Draining -/

/-- Draining ends in the failure of the step that it stops at. -/
theorem tells_drainTurn (σ : Type) :
    Tells (σ := σ) failure? (fun r : List Document × Ending => r.2.failure?) drainTurn := by
  constructor
  · rintro ((err | _) | _ | d) s a stops <;> cases stops <;> rfl
  · rintro ((err | _) | _ | d) s f again <;> cases again
    exact ⟨rfl, fun _ => rfl⟩

/-- What comes back for a fetch accounts for its failure. -/
theorem course_part {codec : Codec} {refusable : Prop} (sent : ¬ refusable) (e : Exchange) :
    Course codec refusable [e] (failure? (e.part codec)) := by
  unfold Exchange.part
  rcases e.result_cases codec .abandoned
    with ⟨reply, came, result⟩ | ⟨err, came, result⟩ | ⟨nothing, result⟩
  · rw [result]
    dsimp only
    rcases read : reply.toCursor e.request.envelope.operation with err | seed
    · obtain ⟨reason, rfl⟩ := isMisread_of_toCursor read
      exact course_blamed sent (Exchange.blames_of_reply came reason)
    · exact course_calm sent (Exchange.not_fails_of_reply came)
  · rw [result]
    exact course_blamed sent (Exchange.blames_of_failure came)
  · rw [result]
    exact course_calm sent (Exchange.not_fails_of_nothing nothing)

namespace Cursor

/-- What decides whether the requests of a cursor are refused, and does not change while it asks for
documents. -/
structure Keeps (k : Connection) (serial : Nat) (getMore : Call) (closed : Bool) (c : Cursor)
    (w : World) : Prop where
  /-- Its connection. -/
  connection : c.connection = k
  /-- Its number. -/
  serial : c.serial = serial
  /-- The call that asks for a batch. -/
  getMore : c.getMore = getMore
  /-- Whether its client has been closed. -/
  closed : w.isClosed k.client = closed

section asks

variable {k : Connection} {serial : Nat} {getMore : Call} {closed : Bool} {c : Cursor} {w : World}

/-- A cursor keeps what it is made of as long as nothing is asked of it. -/
theorem keeps_self (c : Cursor) (w : World) :
    Keeps c.connection c.serial c.getMore (w.isClosed c.connection.client) c w :=
  ⟨rfl, rfl, rfl, rfl⟩

/-- The cursor may change otherwise. -/
theorem Keeps.same (kept : Keeps k serial getMore closed c w) {c' : Cursor}
    (connection : c'.connection = c.connection) (number : c'.serial = c.serial)
    (call : c'.getMore = c.getMore) : Keeps k serial getMore closed c' w :=
  ⟨connection.trans kept.connection, number.trans kept.serial, call.trans kept.getMore, kept.closed⟩

/-- Exchanges do not close the client. -/
theorem Keeps.sends (kept : Keeps k serial getMore closed c w) {sender : Sender}
    {deadline : Nat → Nat} {es : List Exchange} {w' : World}
    (sends : Sends sender deadline w es w') : Keeps k serial getMore closed c w' :=
  ⟨kept.connection, kept.serial, kept.getMore, (sends.isClosed k.client).trans kept.closed⟩

/-- Asking for documents accounts for its failure; the requests are refused where the client has
been closed or the size of batches has no form on the wire. -/
abbrev Asks (k : Connection) (serial : Nat) (getMore : Call) (closed : Bool) (limits : Limits) :
    World → Option Error → World → Prop :=
  Ran k.codec (some serial) (fun _ => limits.deadline)
    (closed = true ∨ ¬ getMore.Encodes k.codec)

/-- A fetch accounts for its failure. -/
theorem advance_uses (limits : Limits) (kept : Keeps k serial getMore closed c w) :
    Uses (Asks k serial getMore closed limits) (Keeps k serial getMore closed) failure? w
      (c.advance limits w) := by
  obtain ⟨rfl, rfl, rfl, rfl⟩ := kept
  have kept := c.keeps_self w
  cases c.advanced limits w with
  | spent ended result =>
    rw [result]
    exact ⟨ran_nothing _ _ _ _ _, kept⟩
  | tokenless isOpen held result =>
    rw [result]
    exact ⟨ran_nothing _ _ _ _ _, kept.same rfl rfl rfl⟩
  | refused token err isOpen held refuses result =>
    rw [result]
    exact ⟨ran_refused refuses.closed_or_not_encodes refuses.kind, kept.same rfl rfl rfl⟩
  | sent token e w' isOpen held carries sends result =>
    have sent : ¬ (w.isClosed c.connection.client = true
        ∨ ¬ c.getMore.Encodes c.connection.codec) := by
      rintro (closed | cannot)
      · rw [carries.isOpen] at closed
        cases closed
      · exact cannot carries.encodes
    rw [result]
    refine ⟨⟨[e], sends, ?_⟩, ?_⟩
    · rw [failure?_map]
      exact course_part sent e
    · have told : (c.told e).connection = c.connection ∧ (c.told e).serial = c.serial
          ∧ (c.told e).getMore = c.getMore := by
        unfold told
        split <;> exact ⟨rfl, rfl, rfl⟩
      exact (kept.same told.1 told.2.1 told.2.2).sends sends

/-- Asking for the next document accounts for its failure. -/
theorem tryNext_uses (limits : Limits) (kept : Keeps k serial getMore closed c w) :
    Uses (Asks k serial getMore closed limits) (Keeps k serial getMore closed) failure? w
      (c.tryNext limits w) := by
  revert kept
  fun_induction tryNext c limits w with
  | case1 c w d left front =>
    intro kept
    exact ⟨ran_nothing _ _ _ _ _, kept.same rfl rfl rfl⟩
  | case2 c w empty ended =>
    intro kept
    exact ⟨ran_nothing _ _ _ _ _, kept⟩
  | case3 c w empty isOpen b c' w' advanced ih =>
    intro kept
    have first := advance_uses limits kept
    rw [advanced] at first
    have rest := ih first.own
    exact ⟨first.obeys.trans rest.obeys, rest.own⟩
  | case4 c w empty isOpen h c' w' advanced =>
    intro kept
    have first := advance_uses limits kept
    rw [advanced] at first
    cases h <;> exact ⟨first.obeys, first.own⟩

/-! ## Draining cursors -/

/-- Collecting ends in the failure of the step that it stops at. -/
theorem tells_collectTurn : Tells failure? failure? collectTurn := by
  constructor
  · rintro ((err | _) | _ | d) s a stops <;> cases stops <;> rfl
  · rintro ((err | _) | _ | d) s f again <;> cases again
    exact ⟨rfl, failure?_map _⟩

/-- Collecting accounts for its failure. -/
theorem collect_uses (limits : Limits) (kept : Keeps k serial getMore closed c w) :
    Uses (Asks k serial getMore closed limits) (Keeps k serial getMore closed) failure? w
      (c.collect limits w) :=
  uses_of_rounds Ran.trans tells_collectTurn (fun _ _ => tryNext_uses limits) collect_round c w kept

/-- A stream of documents accounts for its failure. -/
theorem stream_uses (limits : Limits) (kept : Keeps k serial getMore closed c w) :
    Uses (Asks k serial getMore closed limits) (Keeps k serial getMore closed)
      (fun r : List Document × Ending => r.2.failure?) w (c.stream limits w) :=
  uses_of_rounds Ran.trans (tells_drainTurn Cursor) (fun _ _ => tryNext_uses limits) stream_round
    c w kept

/-- Taking some documents accounts for its failure. -/
theorem take_uses (count : Nat) (limits : Limits) (kept : Keeps k serial getMore closed c w) :
    Uses (Asks k serial getMore closed limits) (Keeps k serial getMore closed)
      (fun r : List Document × Ending => r.2.failure?) w (take count c limits w) := by
  induction count generalizing c w with
  | zero => exact ⟨ran_nothing _ _ _ _ _, kept⟩
  | succ count ih =>
    rw [take_succ]
    exact uses_unrolled Ran.trans (tells_drainTurn Cursor) (tryNext_uses limits kept)
      fun _ _ _ _ _ _ kept => ih kept

end asks

/-! ## Sizes of batches that cannot be sent -/

section unsendable

variable {c : Cursor}

/-- A cursor that has to ask for documents: it is open, holds a token, and has nothing left. -/
structure Hungry (c : Cursor) : Prop where
  /-- It is open. -/
  isOpen : c.state.isTerminal = false
  /-- It holds a token. -/
  held : c.cursorId.isSome = true
  /-- It has no document left. -/
  empty : c.buffer = []

/-- A use of a cursor fails by misuse of the request for a batch, and changes nothing else. -/
def Misasks {α : Type} (c : Cursor) (w : World) (error? : α → Option Error)
    (r : α × Cursor × World) : Prop :=
  ∃ message, error? r.1 = some (.usage "get_more" message)
    ∧ r.2 = ({ c with state := .errored }, w)

/-- A fetch with a size of batches that cannot be sent is misuse. -/
theorem advance_misasks (isOpen : c.state.isTerminal = false) (held : c.cursorId.isSome = true)
    (cannot : ¬ c.getMore.Encodes c.connection.codec) (limits : Limits) (w : World) :
    c.Misasks w failure? (c.advance limits w) := by
  cases c.advanced limits w with
  | spent ended => cases isOpen.symm.trans ended
  | tokenless _ none =>
    rw [none] at held
    cases held
  | refused token err _ _ refuses result =>
    obtain ⟨message, rfl⟩ := refuses.eq_usage
    rw [result, c.name_getMore]
    exact ⟨message, rfl, rfl⟩
  | sent token e w' _ _ carries => exact absurd carries.encodes cannot

/-- A cursor that has to ask for documents with a size that cannot be sent is misused. -/
theorem tryNext_misasks (hungry : c.Hungry) (cannot : ¬ c.getMore.Encodes c.connection.codec)
    (limits : Limits) (w : World) : c.Misasks w failure? (c.tryNext limits w) := by
  have first := advance_misasks hungry.isOpen hungry.held cannot limits w
  rw [tryNext]
  split
  · next d rest front =>
    rw [hungry.empty] at front
    cases front
  · rw [if_neg (by rw [hungry.isOpen]; decide)]
    split
    · next advanced =>
      rw [advanced] at first
      obtain ⟨_, failed, _⟩ := first
      cases failed
    · next h c' w' advanced =>
      rw [advanced] at first
      cases h <;> exact first

/-- A drain that cannot ask fails the same way. -/
theorem misasks_unrolled {α : Type} {error'? : α → Option Error}
    {turn : Except Halt (Option Document) → Cursor → Turn α}
    (tells : Tells failure? error'? turn)
    {body : Limits → World → Except Halt (Option Document) × Cursor × World}
    {t : Cursor → Limits → World → α × Cursor × World}
    {limits : Limits} {w : World} (first : c.Misasks w failure? (body limits w)) :
    c.Misasks w error'? (unrolled turn body t limits w) := by
  obtain ⟨message, failed, same⟩ := first
  unfold unrolled
  rcases ran : body limits w with ⟨b, s, w'⟩
  rw [ran] at failed same
  dsimp only at failed same ⊢
  rcases turned : turn b s with a | f
  · exact ⟨message, (tells.stops b s a turned).trans failed, same⟩
  · cases (tells.goesOn b s f turned).1.symm.trans failed

/-- The same of a call by name that asks for the next document. -/
theorem invoke_misasks {name : String} {args : List Value} {kwargs : Document}
    (next : name = "next" ∨ name = "try_next")
    (fits : c.gateway.resolve name args kwargs = .ok .handle) (hungry : c.Hungry)
    (cannot : ¬ c.getMore.Encodes c.connection.codec) (limits : Limits) (w : World) :
    c.Misasks w failure? (c.invoke name args kwargs limits w) := by
  have first := tryNext_misasks hungry cannot limits w
  unfold invoke
  rw [fits]
  dsimp only
  unfold answer
  rw [if_neg (by rcases next with rfl | rfl <;> decide),
    if_neg (by rcases next with rfl | rfl <;> decide),
    if_neg (by rcases next with rfl | rfl <;> decide), if_pos next]
  generalize c.tryNext limits w = r at first
  obtain ⟨(err | _) | d, c', w'⟩ := r <;> exact first

end unsendable

/-! ## Single operations -/

/-- The requests of a cursor account for a failure. -/
abbrev Tallies (c : Cursor) (limits : Limits) : World → Option Error → World → Prop :=
  Accounted c.connection.codec (some c.serial) fun _ => limits.deadline

variable (c : Cursor) (limits : Limits) (w : World)

/-- The requests for the next document account for a failure of it. -/
theorem tryNext_tallies :
    c.Tallies limits w (failure? (c.tryNext limits w).1) (c.tryNext limits w).2.2 :=
  (tryNext_uses limits (c.keeps_self w)).obeys.accounted

/-- The request that closes a cursor accounts for a failure of it. -/
theorem close_tallies :
    c.Tallies limits w (failure? (c.close limits w).1) (c.close limits w).2.2 := by
  unfold close
  dsimp only
  split
  · next token held =>
    split
    · have told := c.connection.dispatch_accounted (some c.serial) (.bare "close")
        (c.origin.stateful .commandCursor token) limits w
      generalize c.connection.dispatch (some c.serial) (.bare "close")
        (c.origin.stateful .commandCursor token) limits w = r at told
      obtain ⟨(err | _) | reply, w'⟩ := r <;> exact told
    · exact accounted_nothing _ _ _ _
  · exact accounted_nothing _ _ _ _

/-- What a cursor itself makes of a call by name. -/
theorem answer_tallies (name : String) (args : List Value) (kwargs : Document) :
    c.Tallies limits w (failure? (c.answer name args kwargs limits w).1)
      (c.answer name args kwargs limits w).2.2 := by
  unfold answer
  split
  · exact accounted_nothing _ _ _ _
  split
  · exact accounted_nothing _ _ _ _
  split
  · exact accounted_nothing _ _ _ _
  split
  · have told := c.tryNext_tallies limits w
    generalize c.tryNext limits w = r at told
    obtain ⟨(err | _) | d, c', w'⟩ := r <;> exact told
  split
  · have told := c.close_tallies limits w
    generalize c.close limits w = r at told
    obtain ⟨(err | _) | _, c', w'⟩ := r <;> exact told
  split
  · cases sizeArgument args kwargs with
    | none => exact accounted_misuse _ _ _ w rfl
    | some size => exact accounted_nothing _ _ _ _
  · exact accounted_misuse _ _ _ w rfl

/-- The requests of a call by name account for a failure of it. -/
theorem invoke_tallies (name : String) (args : List Value) (kwargs : Document) :
    c.Tallies limits w (failure? (c.invoke name args kwargs limits w).1)
      (c.invoke name args kwargs limits w).2.2 := by
  unfold invoke
  rcases resolved : c.gateway.resolve name args kwargs with err | _ | _
  · obtain ⟨message, rfl⟩ := Gateway.resolve_error resolved
    exact accounted_misuse _ _ _ w rfl
  · exact absurd resolved (c.resolve_ne_remote name args kwargs)
  · exact c.answer_tallies limits w name args kwargs

end Cursor

end RemoteDriver
