import RemoteDriver.Proofs.Cursor.Step

/-!
# No document is lost, repeated or reordered

The history of a cursor from the reply that opened it on, told by whoever uses it: which documents
it handed out, which exchanges it had, and which sizes were set.  The uses may come in any order,
each in a world and under limits of its own, so that anything may happen between two of them.

The main statement is `run_delivers_documents`: as long as the cursor has not been closed, the
documents handed out and those in the buffer are the documents of the seed and of all parts that
came back, in order; each request goes out with the latest token and the latest size; and none goes
out after an answer that brought no token.  The invariant behind it is `Account`.
-/

namespace RemoteDriver

open Bson (Document Value)

/-- Whether something came back that a cursor cannot go on from: a part without a token, or no part
at all. -/
def Exchange.EndsCursor (codec : Codec) (e : Exchange) : Prop :=
  e.content.isSome = true ∧ ∀ seed, e.part codec = .ok seed → seed.cursorId = none

namespace Cursor

open World (Sends)

/-! ## Uses of a cursor -/

/-- What is asked of a cursor that is not to be closed. -/
inductive Use
  /-- The next batch. -/
  | advance
  /-- The next document. -/
  | tryNext
  /-- A limit on the documents of a batch. -/
  | batchSize (size : UInt32)
  /-- Any operation but `close` by its name. -/
  | invoke (name : String) (args : List Value) (kwargs : Document) (stays : name ≠ "close")

namespace Use

/-- What a cursor makes of a use; the result is the document that it hands out, if it does. -/
def serve (c : Cursor) (limits : Limits) (w : World) :
    Use → Except Halt (Option Document) × Cursor × World
  | advance =>
    match c.advance limits w with
    | (r, c, w) => (r.map fun _ => none, c, w)
  | tryNext => c.tryNext limits w
  | batchSize size => (.ok none, c.withBatchSize size.toNat, w)
  | invoke name args kwargs _ =>
    match c.invoke name args kwargs limits w with
    | (r, c, w) => (r.map Outcome.document?, c, w)

/-- A call by name hands out the document of its outcome. -/
theorem serve_invoke (c : Cursor) (limits : Limits) (w : World) (name : String)
    (args : List Value) (kwargs : Document) (stays : name ≠ "close") :
    (invoke name args kwargs stays).serve c limits w
      = ((c.invoke name args kwargs limits w).1.map Outcome.document?,
        (c.invoke name args kwargs limits w).2) := rfl

/-- The size that a use asks batches to have. -/
def size? : Use → Option Nat
  | batchSize size => some size.toNat
  | invoke name args kwargs _ => if name = "batch_size" then sizeArgument args kwargs else none
  | _ => none

/-- What a use with this result adds to the history as to the size of batches: what was refused
does not count. -/
def limiting (u : Use) : Except Halt (Option Document) → List Event
  | .ok _ => u.size?.toList.map .limited
  | .error _ => []

end Use

/-- A use together with the limits under which it is made and the world that it finds. -/
structure Visit where
  /-- What is asked. -/
  use : Use
  /-- Under which limits. -/
  limits : Limits
  /-- In which world. -/
  world : World

namespace Visit

/-- What the visit comes to. -/
def outcome (v : Visit) (c : Cursor) : Except Halt (Option Document) × Cursor × World :=
  v.use.serve c v.limits v.world

/-- What a visit adds to the history: the exchanges of its transcript, the document that it hands
out and the size that it sets. -/
def events (v : Visit) (c : Cursor) : List Event :=
  (World.exchanges (some c.serial) (fun _ => v.limits.deadline) v.world (v.outcome c).2.2).map
      .exchanged
    ++ (handing (v.outcome c).1 ++ v.use.limiting (v.outcome c).1)

end Visit

/-- The history of visits one after the other, and what becomes of the cursor. -/
def run (c : Cursor) : List Visit → List Event × Cursor
  | [] => ([], c)
  | v :: rest =>
    let (h, c') := run (v.outcome c).2.1 rest
    (v.events c ++ h, c')

/-! ## Reading a history -/

namespace Event

/-- The document that was handed out. -/
def document? : Event → Option Document
  | handed d => some d
  | _ => none

/-- The exchange that took place. -/
def exchange? : Event → Option Exchange
  | exchanged e => some e
  | _ => none

/-- The size that was set. -/
def size? : Event → Option Nat
  | limited size => some size
  | _ => none

end Event

/-- The documents that were handed out. -/
def handedOut (h : List Event) : List Document := h.filterMap Event.document?

/-- The parts of the result set that came back. -/
def parts (codec : Codec) (h : List Event) : List CursorSeed :=
  (h.filterMap Event.exchange?).filterMap fun e => (e.part codec).toOption

/-- The token of the part that came back last, `first` where none has come back yet. -/
def latestToken (codec : Codec) (first : Option String) (h : List Event) : Option String :=
  ((parts codec h).map (·.cursorId)).getLast?.getD first

/-- The size that was set last. -/
def latestSize (h : List Event) : Option Nat := (h.filterMap Event.size?).getLast?

/-- A request for the next part as it has to be after the history `h`: with the latest token, and
with the latest size as its only argument, if there is one. -/
def AsksOn (connection : Connection) (origin : Route) (first : Option String) (h : List Event)
    (r : Request) : Prop :=
  ∃ token kwargs, latestToken connection.codec first h = some token
    ∧ (match latestSize h with
      | none => kwargs = []
      | some size => ∃ j, connection.codec.encode (.int64 (Int64.ofInt size)) = .ok j
          ∧ kwargs = [("batch_size", j)])
    ∧ r = connection.request ⟨"get_more", [], kwargs, origin.stateful .commandCursor token⟩

section reading

variable (codec : Codec) (first : Option String) (h h' : List Event)

/-- What two histories handed out stands in order. -/
@[simp] theorem handedOut_append : handedOut (h ++ h') = handedOut h ++ handedOut h' := by
  simp [handedOut]

/-- The parts that came back in two histories stand in order. -/
@[simp] theorem parts_append : parts codec (h ++ h') = parts codec h ++ parts codec h' := by
  simp [parts]

/-- A document that is handed out is the only one at that moment. -/
@[simp] theorem handedOut_handed (d : Document) : handedOut [.handed d] = [d] := rfl

/-- An exchange by itself hands out nothing. -/
@[simp] theorem handedOut_exchanged (e : Exchange) : handedOut [.exchanged e] = [] := rfl

/-- A size that is set hands out nothing. -/
@[simp] theorem handedOut_limited (size : Nat) : handedOut [.limited size] = [] := rfl

/-- No part comes back where a document is handed out. -/
@[simp] theorem parts_handed (d : Document) : parts codec [.handed d] = [] := rfl

/-- No part comes back where a size is set. -/
@[simp] theorem parts_limited (size : Nat) : parts codec [.limited size] = [] := rfl

/-- An exchange brings the part in its answer, if one can be read from it. -/
theorem parts_exchanged (e : Exchange) :
    parts codec [.exchanged e] = (e.part codec).toOption.toList := by
  cases hp : (e.part codec).toOption <;> simp [parts, Event.exchange?, hp]

/-- The token of a further part is the latest one. -/
theorem latestToken_append_part {h' : List Event} {seed : CursorSeed}
    (one : parts codec h' = [seed]) : latestToken codec first (h ++ h') = seed.cursorId := by
  simp [latestToken, one]

/-- What brings no part leaves the latest token as it is. -/
theorem latestToken_append_nil {h' : List Event} (none : parts codec h' = []) :
    latestToken codec first (h ++ h') = latestToken codec first h := by
  simp [latestToken, none]

/-- The size that is set now is the latest. -/
@[simp] theorem latestSize_limited (size : Nat) :
    latestSize (h ++ [.limited size]) = some size := by
  simp [latestSize, Event.size?]

/-- What sets no size leaves the latest size as it is. -/
theorem latestSize_append_nil {h' : List Event} (none : h'.filterMap Event.size? = []) :
    latestSize (h ++ h') = latestSize h := by
  simp [latestSize, none]

end reading

/-! ## Requests in a history -/

/-- No exchange of a history ended the cursor. -/
def NoneEnds (codec : Codec) (h : List Event) : Prop :=
  ∀ e, .exchanged e ∈ h → ¬ e.EndsCursor codec

/-- Each exchange of a history asks for what has to be asked for after the history before it, and
nothing is asked for after an answer that ends the cursor. -/
def Orderly (connection : Connection) (origin : Route) (first : Option String)
    (h : List Event) : Prop :=
  ∀ before e, before ++ [.exchanged e] <+: h →
    AsksOn connection origin first before e.request ∧ NoneEnds connection.codec before

section requests

variable {connection : Connection} {origin : Route} {first : Option String} {h : List Event}

/-- What is no exchange ends no cursor. -/
theorem noneEnds_snoc_other {codec : Codec} {event : Event} (other : event.exchange? = none)
    (none : NoneEnds codec h) : NoneEnds codec (h ++ [event]) := by
  intro e he
  rcases List.mem_append.mp he with he | he
  · exact none e he
  · rw [← List.mem_singleton.mp he] at other
    cases other

/-- A history goes on by an exchange that the cursor can go on from. -/
theorem noneEnds_snoc_exchanged {codec : Codec} {e : Exchange} (live : ¬ e.EndsCursor codec)
    (none : NoneEnds codec h) : NoneEnds codec (h ++ [.exchanged e]) := by
  intro e' he
  rcases List.mem_append.mp he with he | he
  · exact none e' he
  · cases List.mem_singleton.mp he
    exact live

/-- A first part of a history that has one more event and ends with an exchange either ends with
that event or is a first part of the history before it. -/
theorem prefix_snoc_cases {before : List Event} {e : Exchange} {event : Event}
    (p : before ++ [.exchanged e] <+: h ++ [event]) :
    (before = h ∧ event = .exchanged e) ∨ before ++ [.exchanged e] <+: h := by
  rcases List.prefix_concat_iff.mp p with same | p
  · obtain ⟨rfl, last⟩ := List.append_inj' same rfl
    exact Or.inl ⟨rfl, (List.cons.inj last).1.symm⟩
  · exact Or.inr p

/-- What is no exchange leaves a history in order. -/
theorem orderly_snoc_other {event : Event} (other : event.exchange? = none)
    (orderly : Orderly connection origin first h) :
    Orderly connection origin first (h ++ [event]) := by
  intro before e p
  rcases prefix_snoc_cases p with ⟨_, rfl⟩ | p
  · cases other
  · exact orderly before e p

/-- An exchange that asks for what is next, with no end before it, leaves a history in order. -/
theorem orderly_snoc_exchanged {e : Exchange} (asks : AsksOn connection origin first h e.request)
    (none : NoneEnds connection.codec h) (orderly : Orderly connection origin first h) :
    Orderly connection origin first (h ++ [.exchanged e]) := by
  intro before e' p
  rcases prefix_snoc_cases p with ⟨rfl, last⟩ | p
  · cases last
    exact ⟨asks, none⟩
  · exact orderly before e' p

end requests

/-! ## The invariant -/

/-- How a cursor that was opened with `seed` stands to its history. -/
structure Account (connection : Connection) (origin : Route) (seed : CursorSeed) (h : List Event)
    (c : Cursor) : Prop where
  /-- It keeps its connection. -/
  connection_eq : c.connection = connection
  /-- It keeps the route of the object that opened it. -/
  origin_eq : c.origin = origin
  /-- No document is lost, repeated or reordered. -/
  documents : handedOut h ++ c.buffer
    = seed.batch ++ (parts connection.codec h).flatMap (·.batch)
  /-- It holds the latest token. -/
  token : c.cursorId = latestToken connection.codec seed.cursorId h
  /-- It keeps the latest size. -/
  size : c.batchSize = latestSize h
  /-- As long as it is open, no answer has ended it. -/
  noneEnds : c.state.isTerminal = false → NoneEnds connection.codec h
  /-- Its requests were those that had to be made. -/
  orderly : Orderly connection origin seed.cursorId h

/-- A cursor that has just been opened has an empty history. -/
theorem account_ofSeed (connection : Connection) (origin : Route) (serial : Nat)
    (seed : CursorSeed) :
    Account connection origin seed [] (ofSeed connection origin serial seed) where
  connection_eq := rfl
  origin_eq := rfl
  documents := by simp [handedOut, parts, ofSeed]
  token := rfl
  size := rfl
  noneEnds := by simp [NoneEnds]
  orderly := by simp [Orderly]

section account

variable {connection : Connection} {origin : Route} {seed : CursorSeed} {h : List Event}
  {c : Cursor}

/-- The request of a cursor is the one that it has to make by its history. -/
theorem Account.asksOn (account : Account connection origin seed h c) {token : String}
    {w : World} {e : Exchange} (held : c.cursorId = some token)
    (carries : c.connection.Carries c.getMore (c.origin.stateful .commandCursor token) w e) :
    AsksOn connection origin seed.cursorId h e.request := by
  obtain ⟨envelope, he, hr⟩ := carries.request
  obtain ⟨operation, context, args, kwargs⟩ := Envelope.ofCall_ok he
  obtain ⟨op, as, ks, route⟩ := envelope
  dsimp only at operation context args kwargs
  rw [name_getMore] at operation
  have bare : as = [] := by
    unfold getMore at args
    split at args <;> simpa [Call.bare, Envelope.encodeArgs] using args.symm
  refine ⟨token, ks, by rw [← account.token, held], ?_, ?_⟩
  · rw [account.connection_eq] at kwargs
    rw [← account.size]
    unfold getMore at kwargs
    cases hs : c.batchSize with
    | none =>
      rw [hs] at kwargs
      simpa [Call.bare, Envelope.encodeKwargs] using kwargs.symm
    | some size =>
      rw [hs] at kwargs
      simp only [Envelope.encodeKwargs] at kwargs
      split at kwargs
      · cases kwargs
      · next j hj => exact ⟨j, hj, (Except.ok.inj kwargs).symm⟩
  · rw [hr, operation, context, bare, account.connection_eq, account.origin_eq]

/-- Handing out the first document of the buffer keeps the account. -/
theorem Account.hand (account : Account connection origin seed h c) {d : Document}
    {rest : List Document} (front : c.buffer = d :: rest) :
    Account connection origin seed (h ++ [.handed d]) { c with buffer := rest } where
  connection_eq := account.connection_eq
  origin_eq := account.origin_eq
  documents := by
    have documents := account.documents
    rw [front] at documents
    simpa using documents
  token := by
    rw [latestToken_append_nil _ _ _ rfl]
    exact account.token
  size := by
    rw [latestSize_append_nil _ rfl]
    exact account.size
  noneEnds isOpen := noneEnds_snoc_other rfl (account.noneEnds isOpen)
  orderly := orderly_snoc_other rfl account.orderly

/-- Setting the size of batches keeps the account. -/
theorem Account.limit (account : Account connection origin seed h c) (size : Nat) :
    Account connection origin seed (h ++ [.limited size]) (c.withBatchSize size) where
  connection_eq := account.connection_eq
  origin_eq := account.origin_eq
  documents := by
    rw [handedOut_append, handedOut_limited, List.append_nil, parts_append, parts_limited,
      List.append_nil]
    exact account.documents
  token := by
    rw [latestToken_append_nil _ _ _ rfl]
    exact account.token
  size := by
    rw [latestSize_limited]
    rfl
  noneEnds isOpen := noneEnds_snoc_other rfl (account.noneEnds isOpen)
  orderly := orderly_snoc_other rfl account.orderly

/-- A cursor that is over keeps its account. -/
theorem Account.settle (account : Account connection origin seed h c) {s : CursorState}
    (ended : s.isTerminal = true) : Account connection origin seed h { c with state := s } where
  connection_eq := account.connection_eq
  origin_eq := account.origin_eq
  documents := account.documents
  token := account.token
  size := account.size
  noneEnds isOpen := absurd (ended.symm.trans isOpen) (by decide)
  orderly := account.orderly

/-- Nothing came back for an exchange that was given up. -/
theorem content_of_abandoned {codec : Codec} {e : Exchange}
    (given : e.part codec = .error .abandoned) : e.content = none := by
  unfold Exchange.part Exchange.result Exchange.reply? at given
  cases hc : e.content with
  | none => rfl
  | some content =>
    rw [hc, Option.map_some] at given
    cases hr : Connection.received codec e.request.envelope.operation content with
    | error err => rw [hr] at given; cases given
    | ok reply =>
      rw [hr] at given
      dsimp only at given
      cases ht : reply.toCursor e.request.envelope.operation with
      | error err => rw [ht] at given; cases given
      | ok seed => rw [ht] at given; cases given

/-- An exchange without a part leaves documents and token as they are. -/
theorem Account.ask_nothing (account : Account connection origin seed h c) {e : Exchange}
    (asks : AsksOn connection origin seed.cursorId h e.request)
    (none : NoneEnds connection.codec h) (nothing : (e.part connection.codec).toOption = .none)
    {s : CursorState} (live : s.isTerminal = false → ¬ e.EndsCursor connection.codec) :
    Account connection origin seed (h ++ [.exchanged e]) { c with state := s } where
  connection_eq := account.connection_eq
  origin_eq := account.origin_eq
  documents := by
    rw [handedOut_append, handedOut_exchanged, List.append_nil, parts_append, parts_exchanged,
      nothing, Option.toList_none, List.append_nil]
    exact account.documents
  token := by
    rw [latestToken_append_nil _ _ _ (by rw [parts_exchanged, nothing, Option.toList_none])]
    exact account.token
  size := by
    rw [latestSize_append_nil _ rfl]
    exact account.size
  noneEnds isOpen := noneEnds_snoc_exchanged (live isOpen) none
  orderly := orderly_snoc_exchanged asks none account.orderly

/-- A part adds its documents to the buffer, and its token is the latest one. -/
theorem Account.ask_part (account : Account connection origin seed h c) {e : Exchange}
    {part : CursorSeed} (asks : AsksOn connection origin seed.cursorId h e.request)
    (none : NoneEnds connection.codec h) (came : e.part connection.codec = .ok part) :
    Account connection origin seed (h ++ [.exchanged e]) (c.continued part) where
  connection_eq := account.connection_eq
  origin_eq := account.origin_eq
  documents := by
    rw [handedOut_append, handedOut_exchanged, List.append_nil, parts_append, parts_exchanged,
      came, Except.toOption, Option.toList_some, List.flatMap_append, List.flatMap_singleton,
      ← List.append_assoc, ← account.documents, List.append_assoc]
    rfl
  token := by
    rw [latestToken_append_part _ _ _
      (by rw [parts_exchanged, came, Except.toOption, Option.toList_some])]
    rfl
  size := by
    rw [latestSize_append_nil _ rfl]
    exact account.size
  noneEnds isOpen := by
    refine noneEnds_snoc_exchanged (fun ends => ?_) none
    have gone := ends.2 part came
    simp [continued, CursorState.after, gone, CursorState.isTerminal] at isOpen
  orderly := orderly_snoc_exchanged asks none account.orderly

/-- A step keeps the account. -/
theorem Account.step (account : Account connection origin seed h c) {h' : List Event}
    {c' : Cursor} (step : Step c h' c') : Account connection origin seed (h ++ h') c' := by
  cases step with
  | hand d rest front => exact account.hand front
  | limit size => exact account.limit size
  | settle s isOpen ended =>
    rw [List.append_nil]
    exact account.settle ended
  | ask token w e isOpen held carries =>
    have asks := account.asksOn held carries
    have none := account.noneEnds isOpen
    have codec : c.connection.codec = connection.codec := by rw [account.connection_eq]
    rcases hp : e.part connection.codec with (err | _) | part
    · rw [told_of_failed (codec ▸ hp)]
      exact account.ask_nothing asks none (by rw [hp]; rfl) (fun no => by cases no)
    · rw [told_of_abandoned (codec ▸ hp)]
      apply account.ask_nothing asks none (by rw [hp]; rfl)
      intro _ ends
      rw [Exchange.EndsCursor, content_of_abandoned hp] at ends
      exact Bool.false_ne_true ends.1
    · rw [told_of_part (codec ▸ hp)]
      exact account.ask_part asks none hp

/-- What every step keeps, a path keeps. -/
theorem Account.path (account : Account connection origin seed h c) {h' : List Event}
    {c' : Cursor} (path : Path c h' c') : Account connection origin seed (h ++ h') c' := by
  induction path with
  | refl => simpa using account
  | snoc _ step ih =>
    rw [← List.append_assoc]
    exact ih.step step

end account

/-! ## Uses as paths -/

/-- What a cursor itself makes of a call by name that does not close it is a path. -/
theorem answer_path (c : Cursor) (name : String) (args : List Value) (kwargs : Document)
    (limits : Limits) (w : World) (stays : name ≠ "close") :
    ∃ es, Sends (some c.serial) (fun _ => limits.deadline) w es
        (c.answer name args kwargs limits w).2.2
      ∧ Path c (es.map .exchanged
          ++ (handing ((c.answer name args kwargs limits w).1.map Outcome.document?)
            ++ (Use.invoke name args kwargs stays).limiting
              ((c.answer name args kwargs limits w).1.map Outcome.document?)))
        (c.answer name args kwargs limits w).2.1 := by
  unfold answer
  simp only [if_neg stays]
  split
  · next named =>
    subst named
    exact ⟨[], .nil _ _ _, .refl⟩
  split
  · next named =>
    subst named
    refine ⟨[], .nil _ _ _, ?_⟩
    cases c.cursorId <;> exact .refl
  split
  · next named =>
    rcases named with rfl | rfl
    · exact ⟨[], .nil _ _ _, .refl⟩
    · exact ⟨[], .nil _ _ _, .refl⟩
  split
  · next named =>
    obtain ⟨es, sends, path⟩ := c.tryNext_path limits w
    generalize c.tryNext limits w = r at sends path
    obtain ⟨d | d, c', w'⟩ := r
    · refine ⟨es, sends, ?_⟩
      simpa [handing, Except.map, Use.limiting] using path
    · refine ⟨es, sends, ?_⟩
      have unsized : (Use.invoke name args kwargs stays).size? = none := by
        rcases named with rfl | rfl <;> rfl
      simpa [Except.map, Outcome.document?_ofDocument?, Use.limiting, unsized] using path
  split
  · next named =>
    subst named
    split
    · next size hs =>
      refine ⟨[], .nil _ _ _, ?_⟩
      have sized : (Use.invoke "batch_size" args kwargs stays).size? = some size := hs
      simpa [handing, Except.map, Outcome.document?, Use.limiting, sized]
        using (Step.limit size).path
    · exact ⟨[], .nil _ _ _, .refl⟩
  · exact ⟨[], .nil _ _ _, .refl⟩

/-- A use is a path, and its exchanges are those of the world. -/
theorem serve_path (c : Cursor) (u : Use) (limits : Limits) (w : World) :
    ∃ es, Sends (some c.serial) (fun _ => limits.deadline) w es (u.serve c limits w).2.2
      ∧ Path c (es.map .exchanged
          ++ (handing (u.serve c limits w).1 ++ u.limiting (u.serve c limits w).1))
        (u.serve c limits w).2.1 := by
  cases u with
  | advance =>
    obtain ⟨es, sends, path⟩ := c.advance_path limits w
    unfold Use.serve
    generalize c.advance limits w = r at sends path
    obtain ⟨h | b, c', w'⟩ := r
    · exact ⟨es, sends, by simpa [handing, Except.map, Use.limiting] using path⟩
    · exact ⟨es, sends, by simpa [handing, Except.map, Use.limiting, Use.size?] using path⟩
  | tryNext =>
    obtain ⟨es, sends, path⟩ := c.tryNext_path limits w
    unfold Use.serve
    generalize c.tryNext limits w = r at sends path
    obtain ⟨h | d, c', w'⟩ := r
    · exact ⟨es, sends, by simpa [Use.limiting] using path⟩
    · exact ⟨es, sends, by simpa [Use.limiting, Use.size?] using path⟩
  | batchSize size => exact ⟨[], .nil _ _ _, (Step.limit size.toNat).path⟩
  | invoke name args kwargs stays =>
    rw [Use.serve_invoke]
    unfold invoke
    cases hr : c.gateway.resolve name args kwargs with
    | error err => exact ⟨[], .nil _ _ _, .refl⟩
    | ok server =>
      cases server with
      | remote => exact absurd hr (c.resolve_ne_remote name args kwargs)
      | handle => exact c.answer_path name args kwargs limits w stays

/-- What a visit adds to the history is a path of the cursor. -/
theorem events_path (c : Cursor) (v : Visit) : Path c (v.events c) (v.outcome c).2.1 := by
  obtain ⟨es, sends, path⟩ := c.serve_path v.use v.limits v.world
  unfold Visit.events Visit.outcome
  rw [sends.exchanges_eq]
  exact path

/-- A run is a path. -/
theorem run_path (c : Cursor) (visits : List Visit) :
    Path c (c.run visits).1 (c.run visits).2 := by
  induction visits generalizing c with
  | nil => exact .refl
  | cons v rest ih => exact (c.events_path v).trans (ih _)

/-! ## The delivery of documents -/

/-- As long as a cursor has not been closed, and whatever is asked of it in whatever worlds: the
documents that it has handed out and those that it still holds are those of its seed and of all
parts that have come back, in order; every request asks for what has to be asked for by the history
before it; and none follows an answer without a token. -/
theorem run_delivers_documents (connection : Connection) (origin : Route) (serial : Nat)
    (seed : CursorSeed) (visits : List Visit) :
    let (h, c) := (ofSeed connection origin serial seed).run visits
    handedOut h ++ c.buffer = seed.batch ++ (parts connection.codec h).flatMap (·.batch)
      ∧ ∀ before e, before ++ [.exchanged e] <+: h →
        AsksOn connection origin seed.cursorId before e.request
          ∧ ∀ e', .exchanged e' ∈ before → ¬ e'.EndsCursor connection.codec := by
  have path := (ofSeed connection origin serial seed).run_path visits
  have account := (account_ofSeed connection origin serial seed).path path
  rw [List.nil_append] at account
  exact ⟨account.documents, account.orderly⟩

end Cursor

end RemoteDriver
