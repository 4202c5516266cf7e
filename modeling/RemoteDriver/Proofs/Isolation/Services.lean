import Mathlib.Tactic.SplitIfs
import RemoteDriver.Proofs.Isolation.Beside
import RemoteDriver.Proofs.Routing.Requests

/-!
# Commands in worlds beside each other

Whatever is asked of a cursor, a change stream or a close signal, it is answered alike in worlds
that look the same to it (`Handle.service_alike`).  A call that is passed through may open another
handle, with a number that depends on how many have been opened before; without that number the
answers are alike too (`Handle.unnumbered_alike`).
-/

namespace RemoteDriver

open Bson (Document Value)

/-! ## Cursors -/

namespace Cursor

variable {a : Vantage} {c : Cursor}

/-- Using a cursor leaves its number as it is. -/
theorem serial_of_pursues {deadline : Nat} {c' : Cursor} {w w' : World}
    (pursues : c.Pursues deadline w c' w') (mine : c.serial = a.number) :
    c'.serial = a.number := by
  obtain ⟨_, _, follows⟩ := pursues
  exact follows.serial.trans mine

/-- A fetch is answered alike in worlds beside each other. -/
theorem fetch_alike (mine : c.serial = a.number) (token : String) : a.Alike (c.fetch token) := by
  rw [fetch_eq, mine]
  exact Action.alike_bind (c.connection.dispatch_alike _ _) fun _ => Action.alike_ofExcept _

/-- Fetching the next batch leaves the same cursor in both worlds. -/
theorem advance_alike (mine : c.serial = a.number) : a.AlikeUse c.advance := by
  intro limits w v beside
  unfold advance
  split_ifs with ended
  · exact ⟨_, _, w, v, rfl, rfl, beside⟩
  · rcases c.cursorId with _ | token
    · exact ⟨_, _, w, v, rfl, rfl, beside⟩
    · obtain ⟨r, w', v', hw, hv, beside'⟩ := fetch_alike mine token limits w v beside
      dsimp only
      rw [hw, hv]
      rcases r with (e | _) | seed <;> exact ⟨_, _, w', v', rfl, rfl, beside'⟩

/-- Asking for the next document is a loop of fetches, each of them alike. -/
theorem tryNext_alike (mine : c.serial = a.number) : a.AlikeUse c.tryNext :=
  alike_of_rounds (fun _ => advance_alike)
    (fun c limits w => serial_of_pursues (c.advance_pursues limits w))
    (fun _ _ => (tryNext_rounds rfl).imp_left fun ended => ⟨_, ended⟩) c mine

/-- The number of a cursor stays while the next document is asked for. -/
theorem serial_tryNext (c : Cursor) (limits : Limits) (w : World) (mine : c.serial = a.number) :
    (c.tryNext limits w).2.1.serial = a.number :=
  serial_of_pursues (c.tryNext_pursues limits w) mine

/-- Collecting hands out the same documents in both worlds. -/
theorem collect_alike (mine : c.serial = a.number) : a.AlikeUse c.collect :=
  alike_of_rounds (fun _ => tryNext_alike) serial_tryNext
    (fun c _ => .inr c.collect_round) c mine

/-- A stream of documents hands out the same ones in both worlds. -/
theorem stream_alike (mine : c.serial = a.number) : a.AlikeUse c.stream :=
  alike_of_rounds (fun _ => tryNext_alike) serial_tryNext
    (fun c _ => .inr c.stream_round) c mine

/-- Taking some documents hands out the same ones in both worlds. -/
theorem take_alike (mine : c.serial = a.number) (count : Nat) : a.AlikeUse (take count c) := by
  induction count generalizing c with
  | zero => exact fun _ w v beside => ⟨_, _, w, v, rfl, rfl, beside⟩
  | succ count ih =>
    intro limits w v beside
    rw [take_succ]
    refine unrolled_alike (tryNext_alike mine) beside fun _ c' w' v' _ pulled _ beside' => ?_
    have mine' := c.serial_tryNext limits v mine
    rw [pulled] at mine'
    exact ih mine' limits w' v' beside'

/-- Closing ends alike in both worlds. -/
theorem close_alike (mine : c.serial = a.number) : a.AlikeUse c.close := by
  intro limits w v beside
  unfold close
  rcases c.cursorId with _ | token
  · exact ⟨_, _, w, v, rfl, rfl, beside⟩
  · dsimp only
    split_ifs with live
    · rw [mine]
      obtain ⟨r, w', v', hw, hv, beside'⟩ := c.connection.dispatch_alike (.bare "close")
        (c.origin.stateful .commandCursor token) limits w v beside
      rw [hw, hv]
      rcases r with h | reply <;> exact ⟨_, _, w', v', rfl, rfl, beside'⟩
    · exact ⟨_, _, w, v, rfl, rfl, beside⟩

/-- An operation of a cursor is answered alike, whatever its name and arguments. -/
theorem answer_alike (mine : c.serial = a.number) (name : String) (args : List Value)
    (kwargs : Document) : a.AlikeUse (c.answer name args kwargs) := by
  intro limits w v beside
  unfold answer
  split_ifs with alive token absent next close limit
  · exact ⟨_, _, w, v, rfl, rfl, beside⟩
  · exact ⟨_, _, w, v, rfl, rfl, beside⟩
  · exact ⟨_, _, w, v, rfl, rfl, beside⟩
  · obtain ⟨r, c', w', v', hw, hv, beside'⟩ := tryNext_alike mine limits w v beside
    rw [hw, hv]
    rcases r with h | d <;> exact ⟨_, _, w', v', rfl, rfl, beside'⟩
  · obtain ⟨r, c', w', v', hw, hv, beside'⟩ := close_alike mine limits w v beside
    rw [hw, hv]
    rcases r with h | _ <;> exact ⟨_, _, w', v', rfl, rfl, beside'⟩
  · cases sizeArgument args kwargs <;> exact ⟨_, _, w, v, rfl, rfl, beside⟩
  · exact ⟨_, _, w, v, rfl, rfl, beside⟩

/-- A call by name is resolved without the world, and then answered alike. -/
theorem invoke_alike (mine : c.serial = a.number) (name : String) (args : List Value)
    (kwargs : Document) : a.AlikeUse (c.invoke name args kwargs) := by
  intro limits w v beside
  unfold invoke
  rcases resolved : c.gateway.resolve name args kwargs with e | _ | _
  · exact ⟨_, _, w, v, rfl, rfl, beside⟩
  · exact absurd resolved (c.resolve_ne_remote name args kwargs)
  · exact answer_alike mine name args kwargs limits w v beside

end Cursor

/-! ## Change streams -/

namespace ChangeStream

variable {a : Vantage} {s : ChangeStream}

/-- Asking a change stream for events leaves its number as it is. -/
theorem serial_of_pursues {limits : Limits} {s' : ChangeStream} {w w' : World}
    (pursues : s.Pursues limits w s' w') (mine : s.serial = a.number) : s'.serial = a.number := by
  obtain ⟨_, _, follows, _⟩ := pursues
  exact follows.serial.trans mine

/-- The time at which the close signal fires moves with the clock. -/
theorem closingTime_later (s : ChangeStream) (limits : Limits) (span : Nat) :
    s.closingTime (limits.later span) = (s.closingTime limits).map (· + span) := by
  unfold closingTime Limits.later
  rcases limits.closing with _ | ⟨subscription, time⟩
  · rfl
  · dsimp only [Option.map_some, Prod.map, id]
    split_ifs <;> rfl

/-- A fetch is answered alike, and broken off alike, in worlds beside each other. -/
theorem pull_alike (mine : s.serial = a.number) (id : String) : a.Alike (s.pull id) := by
  have fetched := Action.alike_interruptedAt
    (s.connection.dispatchWithin_alike (a := a) s.timeout (.bare "try_next")
      (s.origin.stateful .changeStream id)) s.closingTime
    fun limits => s.closingTime_later limits a.span
  intro limits w v beside
  obtain ⟨r, w', v', hw, hv, beside'⟩ := fetched limits w v beside
  dsimp only at hw hv
  unfold pull fetch
  rw [mine, hw, hv]
  rcases r with h | _ | reply
  · exact ⟨_, w', v', rfl, rfl, beside'⟩
  · exact ⟨_, w', v', rfl, rfl, beside'⟩
  · dsimp only
    cases reply.toStream "try_next" <;> exact ⟨_, w', v', rfl, rfl, beside'⟩

/-- A fetch leaves the same change stream in both worlds. -/
theorem pullNext_alike (mine : s.serial = a.number) : a.AlikeUse s.pullNext := by
  intro limits w v beside
  unfold pullNext
  rcases s.streamId with _ | id
  · exact ⟨_, _, w, v, rfl, rfl, beside⟩
  · obtain ⟨r, w', v', hw, hv, beside'⟩ := pull_alike mine id limits w v beside
    dsimp only
    rw [hw, hv]
    exact ⟨_, _, w', v', rfl, rfl, beside'⟩

/-- Asking once for an event leaves the same stream in both worlds. -/
theorem tryNext_alike (mine : s.serial = a.number) : a.AlikeUse s.tryNext := by
  intro limits w v beside
  rcases held : s.pending with _ | event
  · by_cases ended : s.state = .closed
    · rw [tryNext_ended held ended, tryNext_ended held ended]
      exact ⟨_, _, w, v, rfl, rfl, beside⟩
    · rw [tryNext_eq held ended, tryNext_eq held ended, mine, beside.fired]
      split_ifs with fired
      · exact ⟨_, _, w, v, rfl, rfl, beside⟩
      · exact pullNext_alike mine limits w v beside
  · rw [tryNext_pending held, tryNext_pending held]
    exact ⟨_, _, w, v, rfl, rfl, beside⟩

/-- The number of a change stream stays while it is asked once. -/
theorem serial_tryNext (s : ChangeStream) (limits : Limits) (w : World)
    (mine : s.serial = a.number) : (s.tryNext limits w).2.1.serial = a.number :=
  serial_of_pursues (s.tryNext_pursues limits w) mine

/-- Waiting for an event is a loop of fetches, each of them alike. -/
theorem nextEvent_alike (mine : s.serial = a.number) : a.AlikeUse s.nextEvent :=
  alike_of_rounds (fun _ => tryNext_alike) serial_tryNext
    (fun s _ => .inr s.nextEvent_round) s mine

/-- The number of a change stream stays while an event is waited for. -/
theorem serial_nextEvent (s : ChangeStream) (limits : Limits) (w : World)
    (mine : s.serial = a.number) : (s.nextEvent limits w).2.1.serial = a.number :=
  serial_of_pursues (s.nextEvent_pursues limits w) mine

/-- A stream of events hands out the same ones in both worlds. -/
theorem stream_alike (mine : s.serial = a.number) : a.AlikeUse s.stream :=
  alike_of_rounds (fun _ => nextEvent_alike) serial_nextEvent
    (fun s _ => .inr s.stream_round) s mine

/-- Taking some events hands out the same ones in both worlds. -/
theorem take_alike (mine : s.serial = a.number) (count : Nat) : a.AlikeUse (take count s) := by
  induction count generalizing s with
  | zero => exact fun _ w v beside => ⟨_, _, w, v, rfl, rfl, beside⟩
  | succ count ih =>
    intro limits w v beside
    rw [take_succ]
    refine unrolled_alike (nextEvent_alike mine) beside fun _ s' w' v' _ pulled _ beside' => ?_
    have mine' := s.serial_nextEvent limits v mine
    rw [pulled] at mine'
    exact ih mine' limits w' v' beside'

/-- Closing ends alike in both worlds. -/
theorem close_alike (mine : s.serial = a.number) : a.AlikeUse s.close := by
  intro limits w v beside
  rw [close_eq, mine]
  have beside := beside.fire
  unfold part farewell
  rcases s.streamId with _ | id
  · exact ⟨_, _, _, _, rfl, rfl, beside⟩
  · rw [mine]
    obtain ⟨r, w', v', hw, hv, beside'⟩ := s.connection.dispatch_alike (.bare "close")
      (s.origin.stateful .changeStream id) limits _ _ beside
    dsimp only
    rw [hw, hv]
    exact ⟨_, _, w', v', rfl, rfl, beside'⟩

/-- An operation of a change stream is answered alike, whatever its name. -/
theorem answer_alike (mine : s.serial = a.number) (name : String) : a.AlikeUse (s.answer name) := by
  intro limits w v beside
  unfold answer
  dsimp only
  split_ifs with alive token try_ next close
  · exact ⟨_, _, w, v, rfl, rfl, beside⟩
  · exact ⟨_, _, w, v, rfl, rfl, beside⟩
  · obtain ⟨r, s', w', v', hw, hv, beside'⟩ := tryNext_alike mine limits w v beside
    rw [hw, hv]
    rcases r with h | d <;> exact ⟨_, _, w', v', rfl, rfl, beside'⟩
  · obtain ⟨r, s', w', v', hw, hv, beside'⟩ := nextEvent_alike mine limits w v beside
    rw [hw, hv]
    rcases r with h | d <;> exact ⟨_, _, w', v', rfl, rfl, beside'⟩
  · obtain ⟨r, s', w', v', hw, hv, beside'⟩ := close_alike mine limits w v beside
    rw [hw, hv]
    rcases r with h | _ <;> exact ⟨_, _, w', v', rfl, rfl, beside'⟩
  · exact ⟨_, _, w, v, rfl, rfl, beside⟩

/-- A call by name is resolved without the world, and then answered alike. -/
theorem invoke_alike (mine : s.serial = a.number) (name : String) (args : List Value)
    (kwargs : Document) : a.AlikeUse (s.invoke name args kwargs) := by
  intro limits w v beside
  unfold invoke
  rcases resolved : s.gateway.resolve name args kwargs with e | _ | _
  · exact ⟨_, _, w, v, rfl, rfl, beside⟩
  · exact absurd resolved (s.resolve_ne_remote name args kwargs)
  · exact answer_alike mine name limits w v beside

end ChangeStream

/-! ## Numbers of opened handles -/

/-- A call opens whatever handle its reply is for. -/
def Command.OpensHandles : Command → Prop
  | .forwardOutcome _ _ => True
  | _ => False

/-- An outcome without the number of what was opened. -/
def Outcome.unnumbered : Outcome → Outcome
  | .cursor c => .cursor { c with serial := 0 }
  | .changeStream s => .changeStream { s with serial := 0 }
  | o => o

/-- A result without the number of what was opened. -/
def Result.unnumbered : Result → Result
  | .outcome o => .outcome o.unnumbered
  | .converted o => .converted (o.map Outcome.unnumbered)
  | r => r

/-- The number that is left out says nothing of the kind. -/
theorem Outcome.kind_unnumbered (o : Outcome) : o.unnumbered.kind = o.kind := by
  cases o <;> rfl

/-- A kind that was asked for is met without the number if it is met with it. -/
theorem Result.unnumbered_ofOutcome (o : Outcome) (into : Option Outcome.Kind) :
    (ofOutcome o into).unnumbered = (ofOutcome o.unnumbered into).unnumbered := by
  cases into with
  | none => cases o <;> rfl
  | some kind =>
    unfold ofOutcome
    dsimp only
    rw [o.kind_unnumbered]
    by_cases met : o.kind = kind
    · rw [if_pos met, if_pos met]
      cases o <;> rfl
    · rw [if_neg met, if_neg met]

/-- A service with the number left out of its result. -/
def Service.unnumbered (service : Service) : Service := fun limits w =>
  ((service limits w).1.map Result.unnumbered, (service limits w).2)

/-! ## All handles -/

namespace Vantage

variable {a : Vantage} {α σ : Type}

/-- What is read of a result, and of what has become of the handle. -/
theorem AlikeUse.read {t : Limits → World → α × σ × World} (alike : a.AlikeUse t)
    (f : α → Except Halt Result) (g : σ → Option Handle) :
    a.AlikeUse fun limits w => (f (t limits w).1, g (t limits w).2.1, (t limits w).2.2) := by
  intro limits w v beside
  obtain ⟨r, s, w', v', hw, hv, beside'⟩ := alike limits w v beside
  dsimp only
  rw [hw, hv]
  exact ⟨_, _, w', v', rfl, rfl, beside'⟩

/-- A computation on a handle that stays what it is. -/
theorem Alike.steady {t : Action Result} (alike : a.Alike t) (h : Handle) :
    a.AlikeUse (h.steady t) := by
  intro limits w v beside
  obtain ⟨r, w', v', hw, hv, beside'⟩ := alike limits w v beside
  unfold Handle.steady
  rw [hw, hv]
  exact ⟨_, _, w', v', rfl, rfl, beside'⟩

end Vantage

/-- A call that is passed through is answered alike in worlds beside each other. -/
theorem Gateway.forward_alike {a : Vantage} {g : Gateway} (mine : g.sender = some a.number)
    (name : String) (args : List Value) (kwargs : Document) :
    a.Alike (g.forward name args kwargs) := by
  unfold forward
  rw [mine]
  split
  · exact Action.alike_fail _
  · split
    · exact Action.alike_fail _
    · exact g.connection.dispatch_alike _ _

/-- What is made of a reply is the same, if the number of what it opens is not looked at. -/
theorem Outcome.ofReply_alike {a : Vantage} {α : Type} (g : Gateway) (reply : Reply)
    {f : Outcome → α} (blind : ∀ o, f o = f o.unnumbered) :
    a.Alike (do return f (← Outcome.ofReply g reply) : Action α) := by
  intro limits w v beside
  cases reply with
  | value => exact ⟨_, w, v, rfl, rfl, beside⟩
  | cursor seed =>
    exact ⟨.ok (f (.cursor (.ofSeed g.connection g.route 0 seed))), _, _,
      Prod.ext (congrArg Except.ok (blind _)) rfl, Prod.ext (congrArg Except.ok (blind _)) rfl,
      { beside with }⟩
  | stream seed =>
    exact ⟨.ok (f (.changeStream (.ofSeed g.connection g.route 0 seed))), _, _,
      Prod.ext (congrArg Except.ok (blind _)) rfl, Prod.ext (congrArg Except.ok (blind _)) rfl,
      { beside with }⟩

namespace Handle

variable {a : Vantage} {command : Command} {service : Service}

/-- What all handles can do is alike, unless it opens a handle. -/
theorem common_alike {g : Gateway} {t : Action Result} (mine : g.sender = some a.number)
    (common : common? g command = some t) (own : ¬ command.OpensHandles) : a.Alike t := by
  cases command <;> cases common
  case route | surface => exact Action.alike_pure _
  case forward call =>
    exact Action.alike_bind (g.forward_alike mine _ _ _) fun _ => Action.alike_pure _
  case forwardOutcome => exact absurd trivial own

/-- Each operation of a cursor is alike. -/
theorem own_alike_cursor {c : Cursor} (mine : c.serial = a.number)
    (known : c.own? command = some service) : a.AlikeUse service := by
  have idle (r : Except Halt Result) (h : Option Handle) : a.AlikeUse fun _ w => (r, h, w) :=
    fun _ w v beside => ⟨_, _, w, v, rfl, rfl, beside⟩
  cases command <;> simp only [Cursor.own?, Option.some.injEq, reduceCtorEq] at known <;>
    subst known
  case invoke call into =>
    exact (Cursor.invoke_alike mine _ _ _).read
      (fun r => r.map (Result.ofOutcome · into)) fun c => some (.cursor c)
  case look | describe | batchSize => exact idle _ _
  case advance =>
    exact (Cursor.advance_alike mine).read (fun r => r.map .truth) fun c => some (.cursor c)
  case tryNext =>
    exact (Cursor.tryNext_alike mine).read (fun r => r.map .found) fun c => some (.cursor c)
  case close =>
    exact (Cursor.close_alike mine).read (fun r => r.map fun _ => .done) fun c => some (.cursor c)
  case collect =>
    exact (Cursor.collect_alike mine).read (fun r => r.map .documents) fun _ => none
  case stream =>
    exact (Cursor.stream_alike mine).read (fun r => r.2.toDocuments r.1) fun _ => none
  case take count =>
    exact (Cursor.take_alike mine count).read (fun r => r.2.toItems r.1) fun _ => none

/-- Each operation of a change stream is alike. -/
theorem own_alike_stream {s : ChangeStream} (mine : s.serial = a.number)
    (known : s.own? command = some service) : a.AlikeUse service := by
  have idle (r : Except Halt Result) (h : Option Handle) : a.AlikeUse fun _ w => (r, h, w) :=
    fun _ w v beside => ⟨_, _, w, v, rfl, rfl, beside⟩
  cases command <;> simp only [ChangeStream.own?, Option.some.injEq, reduceCtorEq] at known <;>
    subst known
  case invoke call into =>
    exact (ChangeStream.invoke_alike mine _ _ _).read
      (fun r => r.map (Result.ofOutcome · into)) fun s => some (.changeStream s)
  case look | describe | setTimeout => exact idle _ _
  case closeSignal =>
    intro limits w v beside
    dsimp only
    rw [mine, beside.fired]
    exact ⟨_, _, w, v, rfl, rfl, beside⟩
  case tryNext =>
    exact (ChangeStream.tryNext_alike mine).read (fun r => r.map .found)
      fun s => some (.changeStream s)
  case nextEvent =>
    exact (ChangeStream.nextEvent_alike mine).read (fun r => r.map .found)
      fun s => some (.changeStream s)
  case close =>
    exact (ChangeStream.close_alike mine).read (fun r => r.map fun _ => .done)
      fun s => some (.changeStream s)
  case stream =>
    exact (ChangeStream.stream_alike mine).read (fun r => r.2.toDocuments r.1) fun _ => none
  case take count =>
    exact (ChangeStream.take_alike mine count).read (fun r => r.2.toItems r.1) fun _ => none

/-- Firing a close signal is alike. -/
theorem signalled_alike {t : Action Result} (known : signalled a.number command = some t) :
    a.Alike t := by
  cases command <;> cases known
  case close => exact Action.alike_bind Action.alike_fire fun _ => Action.alike_pure _
  case isClosed =>
    exact Action.alike_bind (Action.alike_look fun _ _ beside => beside.fired)
      fun _ => Action.alike_pure _

/-- Whatever is asked of a handle with a state of its own, it is answered alike in worlds that look
the same to it. -/
theorem service_alike {h : Handle} (mine : h.number? = some a.number)
    (known : h.service? command = some service) (own : ¬ command.OpensHandles) :
    a.AlikeUse service := by
  unfold service? at known
  split at known
  · next t common =>
    cases known
    obtain ⟨g, operates, common⟩ := Option.bind_eq_some_iff.mp common
    have sender := (sender_of_gateway? operates).trans mine
    exact (common_alike sender common own).steady h
  · cases h with
    | cursor c => exact own_alike_cursor (Option.some.inj mine) known
    | changeStream s => exact own_alike_stream (Option.some.inj mine) known
    | closeSignal subscription =>
      obtain ⟨t, ht, rfl⟩ := Option.map_eq_some_iff.mp known
      rw [Option.some.inj mine] at ht
      exact (signalled_alike ht).steady _
    | client | database | collection => cases mine

/-- A call that is passed through is answered alike but for the number of what it opens. -/
theorem forwardOutcome_alike {g : Gateway} (mine : g.sender = some a.number) (call : Call)
    (into : Option Outcome.Kind) :
    a.Alike (do
      let o ← g.forwardOutcome call.name call.args call.kwargs
      return (Result.ofOutcome o into).unnumbered : Action Result) := by
  unfold Gateway.forwardOutcome
  rw [bind_assoc]
  exact Action.alike_bind (g.forward_alike mine _ _ _) fun reply =>
    Outcome.ofReply_alike g reply fun o => Result.unnumbered_ofOutcome o into

/-- A call that is passed through goes by the gateway of the handle. -/
theorem service_forwardOutcome {h : Handle} {call : Call} {into : Option Outcome.Kind}
    (known : h.service? (.forwardOutcome call into) = some service) :
    ∃ g, h.gateway? = some g ∧ service = h.steady (do
      return .ofOutcome (← g.forwardOutcome call.name call.args call.kwargs) into) := by
  unfold service? at known
  rcases operates : h.gateway? with _ | g
  · cases h with
    | closeSignal => cases known
    | client | database | collection | cursor | changeStream => cases operates
  · rw [operates] at known
    exact ⟨g, rfl, (Option.some.inj known).symm⟩

/-- The number is left out of the result of a computation. -/
theorem steady_unnumbered (h : Handle) (t : Action Result) :
    (h.steady t).unnumbered = h.steady (do return (← t).unnumbered) := by
  funext limits w
  unfold Service.unnumbered steady
  rw [Action.bind_eq_resumed]
  rcases t limits w with ⟨_ | _, _⟩ <;> rfl

/-- Whatever is asked of a handle with a state of its own, calls that open other handles included,
it is answered alike but for their numbers. -/
theorem unnumbered_alike {h : Handle} (mine : h.number? = some a.number)
    (known : h.service? command = some service) : a.AlikeUse service.unnumbered := by
  by_cases opens : command.OpensHandles
  · cases command <;> first | exact opens.elim | skip
    next call into =>
      obtain ⟨g, operates, rfl⟩ := service_forwardOutcome known
      have sender := (sender_of_gateway? operates).trans mine
      rw [steady_unnumbered, bind_assoc]
      exact (forwardOutcome_alike sender call into).steady h
  · exact (service_alike mine known opens).read (·.map Result.unnumbered) id

end Handle

end RemoteDriver
