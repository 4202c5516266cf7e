import RemoteDriver.Proofs.Closing.Cursors
import RemoteDriver.Proofs.Cursor.Delivery
import RemoteDriver.Proofs.Life

/-!
# The life of a cursor

A cursor from the reply that opened it on, whatever is asked of it, closing included, and in
whatever worlds: the client may be closed between any two calls.

What a call can do is said once (`entry_served`): it leaves the cursor as it is, sets the size of
batches, asks for documents (`Pull`), or closes it.  The main statement is `life_cycle`: as long as
no call was given up, the cursor is in one of four states, each with the token and the buffer that
go with it; no request follows once the state is terminal; and the remote side is told of the
closing at most once, with the latest token.
-/

namespace RemoteDriver

open Bson (Document Value)

namespace Cursor

open World (Sends)

/-! ## Calls and what they come to -/

/-- What can be asked of a cursor. -/
inductive Demand
  /-- The next batch. -/
  | advance
  /-- The next document. -/
  | tryNext
  /-- A limit on the documents of a batch. -/
  | batchSize (size : UInt32)
  /-- That it is closed. -/
  | close
  /-- Any operation by its name. -/
  | invoke (name : String) (args : List Value) (kwargs : Document)

namespace Demand

/-- What a cursor makes of a demand. -/
def serve (c : Cursor) (limits : Limits) (w : World) :
    Demand → Except Halt Result × Cursor × World
  | advance => (c.advance limits w).map (·.map .truth) id
  | tryNext => (c.tryNext limits w).map (·.map .found) id
  | batchSize size => (.ok .done, c.withBatchSize size.toNat, w)
  | close => (c.close limits w).map (·.map fun _ => .done) id
  | invoke name args kwargs => (c.invoke name args kwargs limits w).map (·.map .outcome) id

/-- Whether a cursor is closed by a demand: it is asked to close, or called by that name with
arguments that fit. -/
def Closes (c : Cursor) : Demand → Prop
  | close => True
  | invoke name args kwargs => name = "close" ∧ c.gateway.resolve name args kwargs = .ok .handle
  | _ => False

/-- Whether a cursor may fetch for a demand: it is asked for a batch or a document, or called by
such a name with arguments that fit. -/
def Fetches (c : Cursor) : Demand → Prop
  | advance => True
  | tryNext => True
  | invoke name args kwargs =>
    (name = "next" ∨ name = "try_next") ∧ c.gateway.resolve name args kwargs = .ok .handle
  | _ => False

end Demand

/-- What the call on an occasion comes to. -/
def entry (c : Cursor) (o : Occasion Demand) : Entry Cursor :=
  let (result, after, w) := o.demand.serve c o.limits o.world
  ⟨World.exchanges (some c.serial) (fun _ => o.limits.deadline) o.world w, result, after, w⟩

/-! ## Asking for documents -/

/-- The cursor after parts of the result set. -/
def fed (c : Cursor) (parts : List CursorSeed) : Cursor := parts.foldl continued c

/-- The parts that exchanges brought. -/
def came (codec : Codec) (es : List Exchange) : List CursorSeed :=
  es.filterMap fun e => (e.part codec).toOption

/-- What asking for documents can do: the exchanges, whether it fails, and the cursor after it. -/
inductive Pull : Cursor → List Exchange → Except Halt Unit → Cursor → Prop
  /-- Nothing, at the end of the result set or once enough has come. -/
  | rest (c : Cursor) : Pull c [] (.ok ()) c
  /-- A document of the buffer is handed out. -/
  | hand {c : Cursor} {d : Document} {left : List Document} (front : c.buffer = d :: left) :
      Pull c [] (.ok ()) { c with buffer := left }
  /-- The cursor holds no token to ask with. -/
  | tokenless {c : Cursor} (isOpen : c.state.isTerminal = false) (held : c.cursorId = none) :
      Pull c [] (.ok ()) { c with state := .exhausted }
  /-- The request is refused on the spot. -/
  | refused {c : Cursor} {err : Error} (isOpen : c.state.isTerminal = false) :
      Pull c [] (.error (.failed err)) { c with state := .errored }
  /-- The request fails. -/
  | failed {c : Cursor} {err : Error} {e : Exchange} (isOpen : c.state.isTerminal = false)
      (asks : e.request.envelope.operation = "get_more")
      (nothing : e.part c.connection.codec = .error (.failed err)) :
      Pull c [e] (.error (.failed err)) { c with state := .errored }
  /-- The request is given up. -/
  | abandoned {c : Cursor} {e : Exchange} (isOpen : c.state.isTerminal = false)
      (asks : e.request.envelope.operation = "get_more") :
      Pull c [e] (.error .abandoned) { c with state := .advancing }
  /-- A batch comes, and it goes on from there. -/
  | more {c c' : Cursor} {e : Exchange} {es : List Exchange} {seed : CursorSeed}
      {r : Except Halt Unit} (isOpen : c.state.isTerminal = false)
      (asks : e.request.envelope.operation = "get_more")
      (brought : e.part c.connection.codec = .ok seed) (on : Pull (c.continued seed) es r c') :
      Pull c (e :: es) r c'

/-- The result of an operation without what it brings. -/
def halted {α : Type} (r : Except Halt α) : Except Halt Unit := r.map fun _ => ()

/-- What an operation brings is left out where it succeeds. -/
@[simp] theorem halted_ok {α : Type} (a : α) : halted (.ok a : Except Halt α) = .ok () := rfl

/-- How an operation fails is kept. -/
@[simp] theorem halted_error {α : Type} (h : Halt) :
    halted (.error h : Except Halt α) = .error h := rfl

/-- It does not matter what is made of what an operation brings. -/
@[simp] theorem halted_map {α β : Type} (f : α → β) (r : Except Halt α) :
    halted (r.map f) = halted r := by
  cases r <;> rfl

/-- A fetch asks for documents once, and sends nothing besides. -/
theorem advance_pull (c : Cursor) (limits : Limits) (w : World) :
    ∃ es, Sends (some c.serial) (fun _ => limits.deadline) w es (c.advance limits w).2.2
      ∧ Pull c es (halted (c.advance limits w).1) (c.advance limits w).2.1 := by
  cases c.advanced limits w with
  | spent ended result =>
    rw [result]
    exact ⟨[], .nil _ _ _, .rest c⟩
  | tokenless isOpen held result =>
    rw [result]
    exact ⟨[], .nil _ _ _, .tokenless isOpen held⟩
  | refused token err isOpen held refuses result =>
    rw [result]
    exact ⟨[], .nil _ _ _, .refused isOpen⟩
  | sent token e w' isOpen held carries sends result =>
    have asks := carries.operation.trans c.name_getMore
    refine ⟨[e], by rw [result]; exact sends, ?_⟩
    rw [result]
    rcases brought : e.part c.connection.codec with (err | _) | seed
    · rw [told_of_failed brought]
      exact .failed isOpen asks brought
    · rw [told_of_abandoned brought]
      exact .abandoned isOpen asks
    · rw [told_of_part brought]
      exact .more isOpen asks brought (.rest _)

/-- Asking for the next document asks for parts until one comes or there is no more. -/
theorem tryNext_pull (c : Cursor) (limits : Limits) (w : World) :
    ∃ es, Sends (some c.serial) (fun _ => limits.deadline) w es (c.tryNext limits w).2.2
      ∧ Pull c es (halted (c.tryNext limits w).1) (c.tryNext limits w).2.1 := by
  fun_induction tryNext c limits w with
  | case1 c w d left front => exact ⟨[], .nil _ _ _, .hand front⟩
  | case2 c w empty ended => exact ⟨[], .nil _ _ _, .rest c⟩
  | case4 c w empty isOpen h c' w' ha =>
    obtain ⟨es, sends, pull⟩ := c.advance_pull limits w
    rw [ha] at sends pull
    exact ⟨es, sends, pull⟩
  | case3 c w empty isOpen b c' w' ha ih =>
    -- an advance that succeeds has noticed the end of the result set or has brought a batch
    cases c.advanced limits w with
    | spent ended _ => exact absurd ended isOpen
    | tokenless open_ held result =>
      cases ha.symm.trans result
      rw [tryNext_ended (c := { c with state := .exhausted }) empty rfl]
      exact ⟨[], .nil _ _ _, .tokenless open_ held⟩
    | refused token err _ _ _ result => cases ha.symm.trans result
    | sent token e w'' open_ held carries sends result =>
      rcases brought : e.part c.connection.codec with (err | _) | seed
      · rw [brought] at result
        cases ha.symm.trans result
      · rw [brought] at result
        cases ha.symm.trans result
      · rw [brought, told_of_part brought] at result
        cases ha.symm.trans result
        obtain ⟨es, sends', pull⟩ := ih
        exact ⟨e :: es, sends.trans sends',
          .more open_ (carries.operation.trans c.name_getMore) brought pull⟩

/-! ### What it keeps -/

/-- A state goes with what the cursor holds. -/
structure Fit (c : Cursor) : Prop where
  /-- No request is under way. -/
  settled : c.state ≠ .advancing
  /-- An open cursor holds a token. -/
  held : c.state = .opened → c.cursorId.isSome = true
  /-- An exhausted one holds none. -/
  spent : c.state = .exhausted → c.cursorId = none
  /-- A closed one holds neither a token nor documents. -/
  gone : c.state = .closed → c.cursorId = none ∧ c.buffer = []

/-- The state that a token leads to goes with that token. -/
theorem fit_of_after {c : Cursor} {token : Option String} (held : c.cursorId = token)
    (state : c.state = .after token) : c.Fit := by
  subst held
  unfold CursorState.after at state
  constructor <;> rw [state] <;> cases c.cursorId <;> simp

/-- A closed cursor holds nothing. -/
theorem fit_emptied (c : Cursor) : c.emptied.Fit := by
  constructor <;> simp [emptied]

/-- A state goes with the buffer after a document is handed out too. -/
theorem Fit.hand {c : Cursor} (fit : c.Fit) {d : Document} {left : List Document}
    (front : c.buffer = d :: left) : Fit { c with buffer := left } where
  settled := fit.settled
  held := fit.held
  spent := fit.spent
  gone closed := by
    have empty := (fit.gone closed).2
    rw [front] at empty
    cases empty

/-- A cursor that fits is left so, unless a request is given up. -/
theorem Pull.fit {c c' : Cursor} {es : List Exchange} {r : Except Halt Unit} (pull : Pull c es r c')
    (completed : r ≠ .error .abandoned) (fit : c.Fit) : c'.Fit := by
  induction pull with
  | rest c => exact fit
  | hand front => exact fit.hand front
  | tokenless isOpen held => exact fit_of_after held rfl
  | refused | failed => constructor <;> simp
  | abandoned => exact absurd rfl completed
  | more _ _ _ _ ih => exact ih completed (fit_of_after rfl rfl)

/-- Only batches are asked for. -/
theorem Pull.asks {c c' : Cursor} {es : List Exchange} {r : Except Halt Unit}
    (pull : Pull c es r c') : ∀ e ∈ es, e.request.envelope.operation = "get_more" := by
  induction pull with
  | rest | hand | tokenless | refused => simp
  | failed _ asks _ => simpa using asks
  | abandoned _ asks => simpa using asks
  | more _ asks _ _ ih => exact List.forall_mem_cons.mpr ⟨asks, ih⟩

/-- At the end of the result set nothing is asked for, and the state stays. -/
theorem Pull.silent {c c' : Cursor} {es : List Exchange} {r : Except Halt Unit}
    (pull : Pull c es r c') (ended : c.state.isTerminal = true) :
    es = [] ∧ c'.state = c.state := by
  cases pull with
  | rest => exact ⟨rfl, rfl⟩
  | hand => exact ⟨rfl, rfl⟩
  | tokenless isOpen | refused isOpen | failed isOpen | abandoned isOpen | more isOpen =>
    rw [ended] at isOpen
    cases isOpen

/-- The connection of a cursor and where it was opened do not change. -/
theorem Pull.same {c c' : Cursor} {es : List Exchange} {r : Except Halt Unit}
    (pull : Pull c es r c') : c'.connection = c.connection ∧ c'.origin = c.origin := by
  induction pull with
  | rest | hand | tokenless | refused | failed | abandoned => exact ⟨rfl, rfl⟩
  | more _ _ _ _ ih => exact ih

/-- A failure changes nothing but the state: the parts that came before it are in the cursor. -/
theorem Pull.failing {c c' : Cursor} {es : List Exchange} {r : Except Halt Unit} {err : Error}
    (pull : Pull c es r c') (fails : r = .error (.failed err)) :
    c' = { c.fed (came c.connection.codec es) with state := .errored } := by
  induction pull with
  | rest | hand | tokenless | abandoned => cases fails
  | refused => rfl
  | failed _ _ nothing => simp [came, nothing, fed, Except.toOption]
  | more _ _ brought _ ih =>
    rw [ih fails]
    simp [came, brought, fed, Except.toOption, continued]

/-! ### Tokens -/

/-- The token of the part that came last in the exchanges. -/
def lastToken (codec : Codec) (first : Option String) (es : List Exchange) : Option String :=
  latestToken codec first (es.map .exchanged)

/-- The token that came last in the later exchanges is the last of all. -/
theorem lastToken_append (codec : Codec) (first : Option String) (es fs : List Exchange) :
    lastToken codec first (es ++ fs) = lastToken codec (lastToken codec first es) fs := by
  simp only [lastToken, latestToken, List.map_append, parts_append, List.getLast?_append]
  cases ((parts codec (fs.map .exchanged)).map (·.cursorId)).getLast? <;> rfl

/-- An exchange without a part leaves the token as it was. -/
theorem lastToken_nothing {codec : Codec} {first : Option String} {e : Exchange}
    (nothing : (e.part codec).toOption = none) : lastToken codec first [e] = first := by
  have none : parts codec [.exchanged e] = [] := by rw [parts_exchanged, nothing]; rfl
  exact latestToken_append_nil codec first [] none

/-- A part brings the token, or takes it away. -/
theorem lastToken_part {codec : Codec} {first : Option String} {e : Exchange} {seed : CursorSeed}
    (brought : e.part codec = .ok seed) : lastToken codec first [e] = seed.cursorId := by
  have one : parts codec [.exchanged e] = [seed] := by rw [parts_exchanged, brought]; rfl
  exact latestToken_append_part codec first [] one

/-- A cursor holds the token of the part that came last. -/
theorem Pull.token {c c' : Cursor} {es : List Exchange} {r : Except Halt Unit}
    (pull : Pull c es r c') (completed : r ≠ .error .abandoned) :
    c'.cursorId = lastToken c.connection.codec c.cursorId es := by
  induction pull with
  | rest | hand | tokenless | refused => rfl
  | failed _ _ nothing =>
    rw [lastToken_nothing (by rw [nothing]; rfl)]
  | abandoned => exact absurd rfl completed
  | more _ _ brought _ ih =>
    rw [ih completed, ← List.singleton_append, lastToken_append, lastToken_part brought]
    rfl

/-! ## Closing -/

/-- What closing a cursor sends: nothing, or one request with the token that an open cursor
holds. -/
def Parting (c : Cursor) (es : List Exchange) : Prop :=
  es = [] ∨ ∃ token e, c.state.isTerminal = false ∧ c.cursorId = some token
    ∧ e.request
      = c.connection.request ⟨"close", [], [], c.origin.stateful .commandCursor token⟩
    ∧ es = [e]

/-- Closing sends what has to be sent for it, and leaves the cursor empty. -/
theorem close_parting (c : Cursor) (limits : Limits) (w : World) :
    ∃ es, Sends (some c.serial) (fun _ => limits.deadline) w es (c.close limits w).2.2
      ∧ c.Parting es ∧ (c.close limits w).2.1 = c.emptied := by
  unfold close
  dsimp only
  split
  · next token held =>
    rcases ended : c.state.isTerminal with _ | _
    · rcases c.connection.dispatch_refused_or_sent (some c.serial) (.bare "close")
          (c.origin.stateful .commandCursor token) limits w
        with ⟨err, _, hd⟩ | ⟨e, w', carries, sends, hd⟩
      · rw [hd]
        exact ⟨[], .nil _ _ _, .inl rfl, rfl⟩
      · rw [hd]
        refine ⟨[e], ?_, .inr ⟨token, e, ended, held, carries.bare, rfl⟩, ?_⟩
        · cases e.result c.connection.codec .abandoned <;> exact sends
        · cases e.result c.connection.codec .abandoned <;> rfl
    · exact ⟨[], .nil _ _ _, .inl rfl, rfl⟩
  · exact ⟨[], .nil _ _ _, .inl rfl, rfl⟩

/-- What closing sends is one request, with the token that is held. -/
theorem Parting.asks {c : Cursor} {es : List Exchange} {e : Exchange} (parting : c.Parting es)
    (member : e ∈ es) : es = [e] ∧ c.state.isTerminal = false ∧ ∃ token, c.cursorId = some token
      ∧ e.request
        = c.connection.request ⟨"close", [], [], c.origin.stateful .commandCursor token⟩ := by
  rcases parting with rfl | ⟨token, e', isOpen, held, request, rfl⟩
  · cases member
  · cases List.mem_singleton.mp member
    exact ⟨rfl, isOpen, token, held, request⟩

/-- At most one request is posted. -/
theorem Parting.length {c : Cursor} {es : List Exchange} (parting : c.Parting es) :
    es.length ≤ 1 := by
  rcases parting with rfl | ⟨_, _, _, _, _, rfl⟩
  · exact Nat.zero_le 1
  · exact Nat.le_refl 1

/-- Nothing is posted at the end of the result set. -/
theorem Parting.silent {c : Cursor} {es : List Exchange} (parting : c.Parting es)
    (ended : c.state.isTerminal = true) : es = [] := by
  rcases parting with rfl | ⟨_, _, isOpen, _⟩
  · rfl
  · rw [ended] at isOpen
    cases isOpen

/-! ## One call -/

/-- What a call can do. -/
inductive Served (c : Cursor) (d : Demand) :
    List Exchange → Except Halt Result → Cursor → Prop
  /-- The cursor stays as it is. -/
  | still {r : Except Halt Result} (idle : ¬ d.Fetches c) (kept : ¬ d.Closes c) : Served c d [] r c
  /-- The size of batches is set. -/
  | sized {r : Except Halt Result} (size : Nat) (idle : ¬ d.Fetches c) (kept : ¬ d.Closes c) :
      Served c d [] r (c.withBatchSize size)
  /-- Documents are asked for. -/
  | pulled {es : List Exchange} {r : Except Halt Result} {c' : Cursor} (fetches : d.Fetches c)
      (kept : ¬ d.Closes c) (pull : Pull c es (halted r) c') : Served c d es r c'
  /-- The cursor is closed. -/
  | parted {es : List Exchange} {r : Except Halt Result} (closes : d.Closes c)
      (idle : ¬ d.Fetches c) (parting : c.Parting es) : Served c d es r c.emptied

/-- What a cursor itself makes of a call by name whose arguments fit. -/
theorem answer_served (c : Cursor) (name : String) (args : List Value) (kwargs : Document)
    (limits : Limits) (w : World) (fits : c.gateway.resolve name args kwargs = .ok .handle) :
    ∃ es, Sends (some c.serial) (fun _ => limits.deadline) w es
        (c.answer name args kwargs limits w).2.2
      ∧ Served c (.invoke name args kwargs) es
        ((c.answer name args kwargs limits w).1.map .outcome)
        (c.answer name args kwargs limits w).2.1 := by
  have idle (other : ¬ (name = "next" ∨ name = "try_next")) :
      ¬ (Demand.invoke name args kwargs).Fetches c := fun fetches => other fetches.1
  have kept (other : name ≠ "close") : ¬ (Demand.invoke name args kwargs).Closes c :=
    fun closes => other closes.1
  unfold answer
  split
  · next named => exact ⟨[], .nil _ _ _, .still (idle (by simp [named])) (kept (by simp [named]))⟩
  split
  · next named => exact ⟨[], .nil _ _ _, .still (idle (by simp [named])) (kept (by simp [named]))⟩
  split
  · next named =>
    refine ⟨[], .nil _ _ _, .still (idle ?_) (kept ?_)⟩ <;> rcases named with rfl | rfl <;> decide
  split
  · next named =>
    obtain ⟨es, sends, pull⟩ := c.tryNext_pull limits w
    generalize c.tryNext limits w = r at sends pull
    obtain ⟨r, c', w'⟩ := r
    have other : name ≠ "close" := by rcases named with rfl | rfl <;> decide
    refine ⟨es, ?_, ?_⟩
    · cases r <;> exact sends
    · cases r <;> exact .pulled ⟨named, fits⟩ (kept other) pull
  split
  · next named =>
    obtain ⟨es, sends, parting, after⟩ := c.close_parting limits w
    generalize c.close limits w = r at sends after
    obtain ⟨r, c', w'⟩ := r
    subst after
    have other : ¬ (name = "next" ∨ name = "try_next") := by subst named; decide
    refine ⟨es, ?_, ?_⟩
    · cases r <;> exact sends
    · cases r <;> exact .parted ⟨named, fits⟩ (idle other) parting
  split
  · next named =>
    have other : ¬ (name = "next" ∨ name = "try_next") := by subst named; decide
    have stays : name ≠ "close" := by subst named; decide
    cases sizeArgument args kwargs with
    | none => exact ⟨[], .nil _ _ _, .still (idle other) (kept stays)⟩
    | some size => exact ⟨[], .nil _ _ _, .sized size (idle other) (kept stays)⟩
  · next other stays _ => exact ⟨[], .nil _ _ _, .still (idle other) (kept stays)⟩

/-- Whatever is asked of a cursor, it does one of these. -/
theorem serve_served (c : Cursor) (d : Demand) (limits : Limits) (w : World) :
    ∃ es, Sends (some c.serial) (fun _ => limits.deadline) w es (d.serve c limits w).2.2
      ∧ Served c d es (d.serve c limits w).1 (d.serve c limits w).2.1 := by
  cases d with
  | advance =>
    obtain ⟨es, sends, pull⟩ := c.advance_pull limits w
    refine ⟨es, sends, .pulled trivial id ?_⟩
    rw [Demand.serve, Prod.map_fst, halted_map]
    exact pull
  | tryNext =>
    obtain ⟨es, sends, pull⟩ := c.tryNext_pull limits w
    refine ⟨es, sends, .pulled trivial id ?_⟩
    rw [Demand.serve, Prod.map_fst, halted_map]
    exact pull
  | batchSize size => exact ⟨[], .nil _ _ _, .sized size.toNat id id⟩
  | close =>
    obtain ⟨es, sends, parting, after⟩ := c.close_parting limits w
    refine ⟨es, sends, ?_⟩
    have same : (Demand.close.serve c limits w).2.1 = c.emptied := after
    rw [same]
    exact .parted trivial id parting
  | invoke name args kwargs =>
    rw [Demand.serve, Prod.map_fst, Prod.map_snd]
    unfold invoke
    cases fits : c.gateway.resolve name args kwargs with
    | error err =>
      refine ⟨[], .nil _ _ _, .still ?_ ?_⟩
      · rintro ⟨_, fit⟩
        cases fits.symm.trans fit
      · rintro ⟨_, fit⟩
        cases fits.symm.trans fit
    | ok server =>
      cases server with
      | remote => exact absurd fits (c.resolve_ne_remote name args kwargs)
      | handle => exact c.answer_served name args kwargs limits w fits

/-- The same of a call as it is told. -/
theorem entry_served (c : Cursor) (o : Occasion Demand) :
    Served c o.demand (c.entry o).exchanges (c.entry o).result (c.entry o).after := by
  obtain ⟨es, sends, served⟩ := c.serve_served o.demand o.limits o.world
  unfold entry
  dsimp only
  rw [sends.exchanges_eq]
  exact served

section served

variable {c c' : Cursor} {d : Demand} {es : List Exchange} {r : Except Halt Result}

/-- The connection of a cursor and where it was opened do not change. -/
theorem Served.same (served : Served c d es r c') :
    c'.connection = c.connection ∧ c'.origin = c.origin := by
  cases served with
  | still | sized | parted => exact ⟨rfl, rfl⟩
  | pulled _ _ pull => exact pull.same

/-- A call that was not given up is not, whatever is left out of its result. -/
theorem halted_completed (completed : r ≠ .error .abandoned) : halted r ≠ .error .abandoned := by
  rcases r with (_ | _) | _
  · simp
  · exact absurd rfl completed
  · simp

/-- A cursor that fits is left so, unless the call is given up. -/
theorem Served.fit (served : Served c d es r c') (completed : r ≠ .error .abandoned) (fit : c.Fit) :
    c'.Fit := by
  cases served with
  | still => exact fit
  | sized size => exact ⟨fit.settled, fit.held, fit.spent, fit.gone⟩
  | pulled _ _ pull => exact pull.fit (halted_completed completed) fit
  | parted => exact fit_emptied c

/-- Batches are asked for by fetches, and the only other request is the one that closing sends. -/
theorem Served.asks (served : Served c d es r c') :
    (d.Fetches c ∧ ∀ e ∈ es, e.request.envelope.operation = "get_more")
      ∨ (¬ d.Fetches c ∧ ((d.Closes c ∧ c.Parting es) ∨ (¬ d.Closes c ∧ es = []))) := by
  cases served with
  | still idle kept => exact .inr ⟨idle, .inr ⟨kept, rfl⟩⟩
  | sized _ idle kept => exact .inr ⟨idle, .inr ⟨kept, rfl⟩⟩
  | pulled fetches _ pull => exact .inl ⟨fetches, pull.asks⟩
  | parted closes idle parting => exact .inr ⟨idle, .inl ⟨closes, parting⟩⟩

/-- At the end of the result set a call posts nothing; the state stays unless the cursor is
closed. -/
theorem Served.silent (served : Served c d es r c') (ended : c.state.isTerminal = true) :
    es = [] ∧ (c'.state = c.state ∨ (d.Closes c ∧ c'.state = .closed)) := by
  cases served with
  | still => exact ⟨rfl, .inl rfl⟩
  | sized => exact ⟨rfl, .inl rfl⟩
  | pulled _ _ pull => exact ⟨(pull.silent ended).1, .inl (pull.silent ended).2⟩
  | parted closes _ parting => exact ⟨parting.silent ended, .inr ⟨closes, rfl⟩⟩

/-- A cursor is closed by closing, whatever comes of the request. -/
theorem Served.emptied (served : Served c d es r c') (closes : d.Closes c) : c' = c.emptied := by
  cases served with
  | still _ kept | sized _ _ kept | pulled _ kept => exact absurd closes kept
  | parted => rfl

/-- A failed fetch changes nothing but the state. -/
theorem Served.failing {err : Error} (served : Served c d es r c') (fetches : d.Fetches c)
    (fails : r = .error (.failed err)) :
    c' = { c.fed (came c.connection.codec es) with state := .errored } := by
  cases served with
  | still idle | sized _ idle | parted _ idle => exact absurd fetches idle
  | pulled _ _ pull => exact pull.failing (by rw [fails]; rfl)

/-- A cursor without documents and at its end stays so. -/
theorem Served.dead (served : Served c d es r c') (dead : c.isAlive = false) :
    c'.isAlive = false := by
  obtain ⟨empty, ended⟩ : c.buffer = [] ∧ c.state.isTerminal = true := by simpa [isAlive] using dead
  cases served with
  | still | sized => exact dead
  | parted => rfl
  | pulled _ _ pull =>
    generalize halted r = h at pull
    cases pull with
    | rest => exact dead
    | hand front =>
      rw [empty] at front
      cases front
    | tokenless isOpen | refused isOpen | failed isOpen | abandoned isOpen | more isOpen =>
      rw [ended] at isOpen
      cases isOpen

end served

/-- A failed advance has brought no part. -/
theorem advance_failing {c : Cursor} {limits : Limits} {w : World} {err : Error}
    (fails : (c.advance limits w).1 = .error (.failed err)) :
    (c.advance limits w).2.1 = { c with state := .errored } := by
  cases c.advanced limits w with
  | spent _ result => rw [result] at fails; cases fails
  | tokenless _ _ result => rw [result] at fails; cases fails
  | refused _ _ _ _ _ result => rw [result]
  | sent token e w' _ _ _ _ result =>
    rw [result] at fails ⊢
    rcases nothing : e.part c.connection.codec with h | seed
    · rw [nothing] at fails
      cases fails
      exact told_of_failed nothing
    · rw [nothing] at fails
      cases fails

/-! ## All calls -/

/-- Nothing is posted any more once the state is terminal. -/
theorem silent_of_terminal {c : Cursor} (ended : c.state.isTerminal = true)
    (os : List (Occasion Demand)) : exchanged (life entry c os) = [] := by
  refine silent_life (P := fun c => c.state.isTerminal = true) (fun c o _ ended => ?_) ended
  obtain ⟨silent, state⟩ := (c.entry_served o).silent ended
  refine ⟨silent, ?_⟩
  rcases state with same | ⟨_, closed⟩
  · rw [same, ended]
  · rw [closed]
    rfl

/-- A cursor that is no longer alive stays so. -/
theorem isAlive_lived {c : Cursor} (dead : c.isAlive = false) (os : List (Occasion Demand)) :
    (lived entry c os).isAlive = false :=
  lived_keeps (P := fun c : Cursor => c.isAlive = false) (fun c o _ => (c.entry_served o).dead) dead

/-- A cursor that is no longer alive has nothing to hand out and nothing to fetch. -/
theorem nothing_of_dead {c : Cursor} (dead : c.isAlive = false) (limits : Limits) (w : World) :
    c.tryNext limits w = (.ok none, c, w) ∧ c.advance limits w = (.ok false, c, w) := by
  obtain ⟨empty, ended⟩ : c.buffer = [] ∧ c.state.isTerminal = true := by simpa [isAlive] using dead
  refine ⟨tryNext_ended empty ended limits w, ?_⟩
  unfold advance
  exact if_pos ended

/-- How a cursor stands to the exchanges of its life. -/
structure Ledger (connection : Connection) (origin : Route) (first : Option String)
    (es : List Exchange) (c : Cursor) : Prop where
  /-- It keeps its connection. -/
  connection_eq : c.connection = connection
  /-- It keeps the route of the object that opened it. -/
  origin_eq : c.origin = origin
  /-- The state goes with what it holds. -/
  fit : c.Fit
  /-- Unless it is closed, it holds the latest token. -/
  token : c.state ≠ .closed → c.cursorId = lastToken connection.codec first es
  /-- Unless it is closed, the remote side has not been told so. -/
  untold : c.state ≠ .closed → farewells es = []
  /-- The remote side is told at most once. -/
  once : (farewells es).length ≤ 1

section ledger

variable {connection : Connection} {origin : Route} {first : Option String}

/-- A cursor that has just been opened has the token of the reply. -/
theorem ledger_ofSeed (connection : Connection) (origin : Route) (serial : Nat)
    (seed : CursorSeed) :
    Ledger connection origin seed.cursorId [] (ofSeed connection origin serial seed) where
  connection_eq := rfl
  origin_eq := rfl
  fit := fit_of_after rfl rfl
  token _ := rfl
  untold _ := rfl
  once := Nat.zero_le 1

/-- A call on a cursor that has been closed adds nothing to the ledger. -/
theorem Ledger.closed {before es : List Exchange} {c c' : Cursor} {d : Demand}
    {r : Except Halt Result} (ledger : Ledger connection origin first before c)
    (served : Served c d es r c') (completed : r ≠ .error .abandoned) (closed : c.state = .closed) :
    Ledger connection origin first (before ++ es) c' := by
  obtain ⟨rfl, state⟩ := served.silent (by rw [closed]; rfl)
  have still : c'.state = .closed := by
    rcases state with same | ⟨_, closed⟩
    · rw [same, closed]
    · exact closed
  rw [List.append_nil]
  exact {
    connection_eq := served.same.1.trans ledger.connection_eq
    origin_eq := served.same.2.trans ledger.origin_eq
    fit := served.fit completed ledger.fit
    token := fun other => absurd still other
    untold := fun other => absurd still other
    once := ledger.once }

/-- A call keeps the ledger. -/
theorem Ledger.call {before es : List Exchange} {c c' : Cursor} {d : Demand}
    {r : Except Halt Result} (ledger : Ledger connection origin first before c)
    (served : Served c d es r c') (completed : r ≠ .error .abandoned) :
    Ledger connection origin first (before ++ es) c' := by
  by_cases closed : c.state = .closed
  · exact ledger.closed served completed closed
  have untold := ledger.untold closed
  have token := ledger.token closed
  have fit := served.fit completed ledger.fit
  obtain ⟨connection_eq, origin_eq⟩ := served.same
  rw [ledger.connection_eq] at connection_eq
  rw [ledger.origin_eq] at origin_eq
  cases served with
  | still =>
    rw [List.append_nil]
    exact ledger
  | sized size =>
    rw [List.append_nil]
    exact ⟨connection_eq, origin_eq, fit, ledger.token, ledger.untold, ledger.once⟩
  | pulled _ _ pull =>
    have none : farewells (before ++ es) = [] := by
      rw [farewells_append, untold, farewells_of_asks (by decide) pull.asks]
      rfl
    refine ⟨connection_eq, origin_eq, fit, fun _ => ?_, fun _ => none, by rw [none]; decide⟩
    rw [lastToken_append, ← token, ← ledger.connection_eq]
    exact pull.token (halted_completed completed)
  | parted _ _ parting =>
    refine ⟨connection_eq, origin_eq, fit, fun other => absurd rfl other,
      fun other => absurd rfl other, ?_⟩
    rw [farewells_append, untold, List.nil_append]
    exact Nat.le_trans (List.length_filter_le _ _) parting.length

end ledger

/-! ## The life cycle -/

/-- How a cursor stands after the exchanges of its life so far, and how it goes on from there. -/
structure Cycle (connection : Connection) (origin : Route) (first : Option String)
    (es : List Exchange) (c : Cursor) : Prop where
  /-- No request is under way, and the state goes with the token and the documents held. -/
  fit : c.Fit
  /-- The remote side has been told of the closing at most once. -/
  once : (farewells es).length ≤ 1
  /-- Where anything is sent next, it is a batch that a fetch asks for, or the one request that
  closing sends, with the latest token. -/
  sends (o : Occasion Demand) : ∀ e ∈ (c.entry o).exchanges,
    (o.demand.Fetches c ∧ e.request.envelope.operation = "get_more")
      ∨ (o.demand.Closes c ∧ (c.entry o).exchanges = [e]
        ∧ ∃ token, lastToken connection.codec first es = some token
          ∧ e.request = connection.request ⟨"close", [], [], origin.stateful .commandCursor token⟩)
  /-- Closing leaves it closed, whatever comes back for that request. -/
  closing (o : Occasion Demand) : o.demand.Closes c → (c.entry o).after = c.emptied
  /-- A terminal state changes only to closed, and only by closing. -/
  terminal (o : Occasion Demand) : c.state.isTerminal = true →
    (c.entry o).after.state = c.state
      ∨ (o.demand.Closes c ∧ (c.entry o).after.state = .closed)
  /-- Once the state is terminal, nothing is sent any more. -/
  silent : c.state.isTerminal = true → ∀ more, exchanged (life entry c more) = []
  /-- Once the remote side has been told, nothing is sent any more. -/
  last : farewells es ≠ [] → ∀ more, exchanged (life entry c more) = []
  /-- A failed fetch adds the parts that came before the failure, and changes nothing else but the
  state. -/
  failing (o : Occasion Demand) (err : Error) : o.demand.Fetches c →
    (c.entry o).result = .error (.failed err) →
      (c.entry o).after
        = { c.fed (came connection.codec (c.entry o).exchanges) with state := .errored }
  /-- No part comes before the failure of a single advance. -/
  failedAdvance (limits : Limits) (w : World) (err : Error) :
    (c.advance limits w).1 = .error (.failed err) →
      (c.advance limits w).2.1 = { c with state := .errored }
  /-- Once it is no longer alive, it stays so and has nothing to hand out or to fetch. -/
  dead : c.isAlive = false → ∀ more, (lived entry c more).isAlive = false ∧ ∀ limits w,
    (lived entry c more).tryNext limits w = (.ok none, lived entry c more, w)
      ∧ (lived entry c more).advance limits w = (.ok false, lived entry c more, w)

/-- What the ledger of a cursor says about how it goes on. -/
theorem Ledger.cycle {connection : Connection} {origin : Route} {first : Option String}
    {es : List Exchange} {c : Cursor} (ledger : Ledger connection origin first es c) :
    Cycle connection origin first es c where
  fit := ledger.fit
  once := ledger.once
  sends o e member := by
    rcases (c.entry_served o).asks with ⟨fetches, asks⟩ | ⟨_, ⟨closes, parting⟩ | ⟨_, none⟩⟩
    · exact .inl ⟨fetches, asks e member⟩
    · obtain ⟨one, isOpen, token, held, request⟩ := parting.asks member
      have live : c.state ≠ .closed := by
        intro closed
        rw [closed] at isOpen
        cases isOpen
      refine .inr ⟨closes, one, token, ?_, ?_⟩
      · rw [← ledger.token live, held]
      · rw [request, ledger.connection_eq, ledger.origin_eq]
    · rw [none] at member
      cases member
  closing o closes := (c.entry_served o).emptied closes
  terminal o ended := ((c.entry_served o).silent ended).2
  silent ended more := silent_of_terminal ended more
  last told more := by
    have closed : c.state = .closed := Decidable.byContradiction fun live =>
      told (ledger.untold live)
    exact silent_of_terminal (by rw [closed]; rfl) more
  failing o err fetches fails := by
    rw [← ledger.connection_eq]
    exact (c.entry_served o).failing fetches fails
  failedAdvance limits w err fails := advance_failing fails
  dead dead more := ⟨isAlive_lived dead more, nothing_of_dead (isAlive_lived dead more)⟩

/-- The life cycle of a cursor, from any seed and by any completed calls, whatever comes back for
its requests and whenever the client is closed: it is open with a token, exhausted without one,
errored, or closed and empty; a terminal state is left only by closing, and nothing is sent from
then on; the remote side is told of the closing at most once, with the latest token. -/
theorem life_cycle (connection : Connection) (origin : Route) (serial : Nat) (seed : CursorSeed)
    (os : List (Occasion Demand))
    (completed : ∀ r ∈ life entry (ofSeed connection origin serial seed) os, r.Completed) :
    Cycle connection origin seed.cursorId
      (exchanged (life entry (ofSeed connection origin serial seed) os))
      (lived entry (ofSeed connection origin serial seed) os) := by
  have step (rows : List (Entry Cursor)) (c : Cursor) (o : Occasion Demand) (_ : o ∈ os)
      (ledger : Ledger connection origin seed.cursorId (exchanged rows) c)
      (completed : (c.entry o).Completed) :
      Ledger connection origin seed.cursorId (exchanged (rows ++ [c.entry o]))
        (c.entry o).after := by
    rw [exchanged_append, exchanged_singleton]
    exact ledger.call (c.entry_served o) completed
  have start := ledger_ofSeed connection origin serial seed
  have ledger := life_keeps step [] start completed
  exact ledger.cycle

/-- A cursor whose only fetch is answered with a value, so that it fails, and that is then
closed. -/
theorem life_cycle_errored :
    let endpoint : Endpoint := ⟨⟨[], none, .bare [], none, none⟩, []⟩
    let connection : Connection := ⟨0, endpoint, .relaxed, 0⟩
    let c := ofSeed connection .client 0 ⟨some "t", [], none⟩
    let w := World.start (.ofScript [])
    let os : List (Occasion Demand) := [⟨.advance, ⟨0, none⟩, w⟩, ⟨.close, ⟨0, none⟩, w⟩]
    (∀ r ∈ life entry c os, r.Completed)
      ∧ Cycle connection .client (some "t") (exchanged (life entry c os)) (lived entry c os) := by
  intro endpoint connection c w os
  have completed : ∀ r ∈ life entry c os, r.Completed := by decide +kernel
  exact ⟨completed, life_cycle connection .client 0 ⟨some "t", [], none⟩ os completed⟩

end Cursor

end RemoteDriver
