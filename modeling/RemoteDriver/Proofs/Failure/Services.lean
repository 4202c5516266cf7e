import RemoteDriver.Proofs.Closing.Services
import RemoteDriver.Proofs.Failure.Handles
import RemoteDriver.Proofs.Failure.Streams

/-!
# The errors of commands

Whatever is asked of a handle with operations, the error that comes of it can be told from what went
over the wire (`Handle.service_classified`).  It names an operation and is no failure of conversion.
It tells of misuse if and only if nothing was posted; otherwise the last request is to blame for it,
and no other one has failed.

A drain in part shows its error after the items; that error counts as that of the command
(`complaint?`).
-/

namespace RemoteDriver

open Bson (Document Value)
open RemoteDriver.Action

/-! ## Results without errors -/

/-- No error is shown in a result. -/
def Result.IsPlain (r : Result) : Prop := complaint? (.ok r) = none

/-- A result that is made of an outcome shows no error. -/
theorem Result.isPlain_ofOutcome (o : Outcome) (into : Option Outcome.Kind) :
    (Result.ofOutcome o into).IsPlain := by
  cases into <;> rfl

/-- Where results show no error, the error of a command is that of its failure. -/
theorem complaint?_of_plain {r : Except Halt Result} (plain : ∀ a, r = .ok a → a.IsPlain) :
    complaint? r = failure? r := by
  rcases r with (err | _) | a
  · rfl
  · rfl
  · exact plain a rfl

/-- A result in words that show no error. -/
theorem complaint?_worded {α : Type} (f : α → Result) (plain : ∀ a, (f a).IsPlain)
    (r : Except Halt α) : complaint? (r.map f) = failure? r := by
  rcases r with (err | _) | a
  · rfl
  · rfl
  · exact plain a

/-- A list of documents shows the error that its drain ended with. -/
theorem complaint?_drained (items : List Document) (ending : Ending) :
    complaint? (ending.toDocuments items) = ending.failure? := by
  cases ending <;> rfl

/-- A list of items shows the error that its drain ended with. -/
theorem complaint?_taken (items : List Document) (ending : Ending) :
    complaint? (ending.toItems items) = ending.failure? := by
  cases ending <;> rfl

/-- A computation shows no error in its result. -/
def Action.Plain (t : Action Result) : Prop :=
  ∀ limits w r, (t limits w).1 = .ok r → r.IsPlain

namespace Action

variable {α : Type}

/-- What is there already shows no error if its result shows none. -/
theorem plain_pure {r : Result} (plain : r.IsPlain) : Plain (pure r) := by
  rintro limits w _ ⟨rfl⟩
  exact plain

/-- A failure has no result to show an error. -/
theorem plain_fail (err : Error) : Plain (fail err) := by
  rintro limits w _ ⟨⟩

/-- What a computation shows is what its last part shows. -/
theorem plain_bind {t : Action α} {f : α → Action Result} (plain : ∀ a, Plain (f a)) :
    Plain (t >>= f) := by
  intro limits w r told
  rw [bind_eq_resumed] at told
  rcases came : (t limits w).1 with h | a
  · rw [came] at told
    cases told
  · rw [came] at told
    exact plain a limits _ r told

end Action

/-- What all handles can do shows no error in its result. -/
theorem Handle.common_plain {g : Gateway} {command : Command} {t : Action Result}
    (known : Handle.common? g command = some t) : t.Plain := by
  cases command <;> cases known
  case route => exact plain_pure rfl
  case surface => exact plain_pure rfl
  case forward call => exact plain_bind fun _ => plain_pure rfl
  case forwardOutcome call into =>
    exact plain_bind fun o => plain_pure (Result.isPlain_ofOutcome o into)

/-- What is special to clients shows no error in its result. -/
theorem Client.own_plain {c : Client} {command : Command} {t : Action Result}
    (known : c.own? command = some t) : t.Plain := by
  cases command <;> simp only [own?, Option.some.injEq, reduceCtorEq] at known <;> subst known
  case invoke call into => exact plain_bind fun o => plain_pure (Result.isPlain_ofOutcome o into)
  case startSession => exact plain_fail _
  case topology => exact plain_pure rfl
  case settings => exact plain_pure rfl
  case clone => exact plain_pure rfl
  case newClient setup => exact plain_bind fun _ => plain_bind fun _ => plain_pure rfl
  all_goals exact plain_bind fun _ => plain_pure rfl

/-- What is special to databases shows no error in its result. -/
theorem Database.own_plain {d : Database} {command : Command} {t : Action Result}
    (known : d.own? command = some t) : t.Plain := by
  cases command <;> simp only [own?, Option.some.injEq, reduceCtorEq] at known <;> subst known
  case invoke call into => exact plain_bind fun o => plain_pure (Result.isPlain_ofOutcome o into)
  case name => exact plain_pure rfl
  case describe => exact plain_pure rfl
  all_goals exact plain_bind fun _ => plain_pure rfl

/-- What is special to collections shows no error in its result. -/
theorem Collection.own_plain {c : Collection} {command : Command} {t : Action Result}
    (known : c.own? command = some t) : t.Plain := by
  cases command <;> simp only [own?, Option.some.injEq, reduceCtorEq] at known <;> subst known
  case invoke call into => exact plain_bind fun o => plain_pure (Result.isPlain_ofOutcome o into)
  case name => exact plain_pure rfl
  case fullName => exact plain_pure rfl
  case describe => exact plain_pure rfl
  case database => exact plain_pure rfl
  all_goals exact plain_bind fun _ => plain_pure rfl

/-! ## What is told of a command -/

/-- Until when the requests for a command to a change stream are waited for. -/
def ChangeStream.patienceFor (s : ChangeStream) (limits : Limits) : Command → Nat → Nat
  | .tryNext | .nextEvent | .stream | .take _ => s.endurance limits
  | .invoke call _ => (Demand.invoke call.name call.args call.kwargs).patience s limits
  | _ => fun _ => limits.deadline

/-- Until when the requests for a command are waited for. -/
def Handle.patience (h : Handle) (command : Command) (limits : Limits) : Nat → Nat :=
  match h with
  | changeStream s => s.patienceFor limits command
  | _ => fun _ => limits.deadline

/-- A command to a cursor begins with a request for a batch. -/
def Cursor.BeginsAsking (c : Cursor) : Command → Prop
  | .advance => c.state.isTerminal = false ∧ c.cursorId.isSome = true
  | .tryNext | .collect | .stream => c.Hungry
  | .take count => 0 < count ∧ c.Hungry
  | .invoke call _ => (call.name = "next" ∨ call.name = "try_next")
    ∧ c.gateway.resolve call.name call.args call.kwargs = .ok .handle ∧ c.Hungry
  | _ => False

/-- What is told of a command to a handle with a gateway by the worlds before and after it and the
error that came of it, if one did. -/
structure Classified (h : Handle) (g : Gateway) (command : Command) (limits : Limits) (w : World)
    (failure : Option Error) (w' : World) (es : List Exchange) : Prop where
  /-- The requests of the exchanges are what was posted. -/
  posted : w'.posted = w.posted ++ es.map (·.request)
  /-- The transcript tells what came back for each of them in time. -/
  told : World.exchanges g.sender (h.patience command limits) w w' = es
  /-- The exchanges account for the error: it names an operation, and one that is called by name has
  its own name there; it tells of misuse if and only if there were none; otherwise the last one is
  to blame, and no other one has failed.  A value that has no form on the wire is misuse. -/
  ends : Ends g (g.call? command) es failure
  /-- The error is no failure of conversion. -/
  converted : ∀ err, failure = some err → err.kind ≠ .codec
  /-- It tells of misuse if and only if nothing was posted. -/
  misused : ∀ err, failure = some err → (err.kind = .usage ↔ w'.posted = w.posted)
  /-- A value in a response that does not decode is a response that was not understood. -/
  garbled : ∀ e ∈ es, e.Garbled g.connection.codec →
    ∃ reason, failure = some (.protocol e.request.envelope.operation reason)
  /-- A size of batches that has no form on the wire is misuse too, where a batch is asked for. -/
  unaskable : ∀ c, h = .cursor c → c.BeginsAsking command →
    ¬ c.getMore.Encodes c.connection.codec →
    w'.posted = w.posted ∧ ∃ message, failure = some (.usage "get_more" message)

/-- What accounts for its error is classified. -/
theorem classified_of_ends {h : Handle} {g : Gateway} {command : Command} {limits : Limits}
    {w w' : World} {es : List Exchange} {failure : Option Error}
    (had : World.Had g.sender (h.patience command limits) w es w')
    (ends : Ends g (g.call? command) es failure)
    (unaskable : ∀ c, h = .cursor c → c.BeginsAsking command →
      ¬ c.getMore.Encodes c.connection.codec →
      w'.posted = w.posted ∧ ∃ message, failure = some (.usage "get_more" message)) :
    Classified h g command limits w failure w' es where
  posted := had.posted
  told := had.exchanges_eq
  ends := ends
  unaskable := unaskable
  garbled _ member garbled := ends.accounts.garbled member garbled
  converted err failed := by
    obtain ⟨operation, named⟩ := ends.accounts.named err failed
    rintro codec
    cases err <;> cases codec
    cases named
  misused err failed := by
    rw [ends.accounts.usage err failed, had.posted]
    simp

/-! ## Handles that stay what they are -/

/-- What comes down to one call, or to none, is classified. -/
theorem Undertakes.classified {h : Handle} {g : Gateway} {command : Command}
    {t : Action Result} (undertakes : Undertakes g t (g.call? command)) (plain : t.Plain)
    {limits : Limits} (patient : h.patience command limits = fun _ => limits.deadline)
    (other : ∀ c, h = .cursor c → ¬ c.BeginsAsking command) (w : World) :
    ∃ es, Classified h g command limits w (complaint? (h.steady t limits w).1)
      (h.steady t limits w).2.2 es := by
  obtain ⟨es, had, ends⟩ := undertakes.ends limits w
  rw [← complaint?_of_plain (plain limits w)] at ends
  rw [← patient] at had
  exact ⟨es, classified_of_ends had ends fun c same begins => absurd begins (other c same)⟩

namespace Handle

/-- What all handles with operations know is no request for a batch, and is waited for as long as
the caller waits. -/
theorem of_common {g : Gateway} {command : Command} {t : Action Result}
    (known : common? g command = some t) (h : Handle) (limits : Limits) :
    h.patience command limits = (fun _ => limits.deadline)
      ∧ ∀ c, h = .cursor c → ¬ c.BeginsAsking command := by
  cases command <;> cases known
  case route | surface | forward | forwardOutcome =>
    cases h <;> exact ⟨rfl, fun _ _ => id⟩

end Handle

/-! ## Cursors -/

namespace Cursor

variable {c : Cursor} {command : Command} {limits : Limits} {w : World}

/-- What a cursor does for a command that is no call is classified. -/
theorem classified {α : Type} (error? : α → Option Error) {r : α × Cursor × World}
    {failure : Option Error} (same : failure = error? r.1)
    (tallies : c.Tallies limits w (error? r.1) r.2.2) (uncalled : c.gateway.call? command = none)
    (begins : c.BeginsAsking command → ¬ c.getMore.Encodes c.connection.codec →
      c.Misasks w error? r) :
    ∃ es, Classified (.cursor c) c.gateway command limits w failure r.2.2 es := by
  subst same
  obtain ⟨es, had, accounts⟩ := tallies
  have ends : Ends c.gateway none es (error? r.1) := Accounts.ends accounts
  rw [← uncalled] at ends
  refine ⟨es, classified_of_ends had ends ?_⟩
  -- a request for a batch that cannot be sent leaves the world as it was
  rintro _ ⟨rfl⟩ asks cannot
  obtain ⟨message, failed, same⟩ := begins asks cannot
  rw [same]
  exact ⟨rfl, message, failed⟩

/-- A command for which nothing is done is classified. -/
theorem idle_classified (uncalled : c.gateway.call? command = none)
    (idle : ¬ c.BeginsAsking command) :
    ∃ es, Classified (.cursor c) c.gateway command limits w none w es := by
  have ends : Ends c.gateway none [] none := Accounts.ends (accounts_nothing _)
  rw [← uncalled] at ends
  refine ⟨[], classified_of_ends (World.Still.refl w).had ends ?_⟩
  rintro _ ⟨rfl⟩ begins
  exact absurd begins idle

/-- Whatever is asked of a cursor is classified. -/
theorem own_classified {service : Service} (known : c.own? command = some service)
    (limits : Limits) (w : World) :
    ∃ es, Classified (.cursor c) c.gateway command limits w (complaint? (service limits w).1)
      (service limits w).2.2 es := by
  cases command <;> simp only [own?, Option.some.injEq, reduceCtorEq] at known <;> subst known
  case invoke call into =>
    have plain (o : Outcome) := Result.isPlain_ofOutcome o into
    refine classified failure? (complaint?_worded _ plain _)
      (c.invoke_tallies limits w call.name call.args call.kwargs)
      (c.gateway.call?_invoke (c.resolve_ne_remote call.name call.args call.kwargs) into) ?_
    rintro ⟨next, fits, hungry⟩ cannot
    exact invoke_misasks next fits hungry cannot limits w
  case look | describe | batchSize =>
    exact idle_classified rfl id
  case advance =>
    exact classified failure? (complaint?_worded .truth (fun _ => rfl) _)
      (advance_uses limits (c.keeps_self w)).obeys.accounted rfl
      fun begins cannot => advance_misasks begins.1 begins.2 cannot limits w
  case tryNext =>
    exact classified failure? (complaint?_worded .found (fun _ => rfl) _)
      (c.tryNext_tallies limits w) rfl
      fun hungry cannot => tryNext_misasks hungry cannot limits w
  case close =>
    exact classified failure? (complaint?_worded (fun _ => .done) (fun _ => rfl) _)
      (c.close_tallies limits w) rfl
      fun begins => begins.elim
  case collect =>
    refine classified failure? (complaint?_worded .documents (fun _ => rfl) _)
      (collect_uses limits (c.keeps_self w)).obeys.accounted rfl fun hungry cannot => ?_
    rw [c.collect_round.unrolls]
    exact misasks_unrolled tells_collectTurn (tryNext_misasks hungry cannot limits w)
  case stream =>
    refine classified (fun r => r.2.failure?) (complaint?_drained _ _)
      (stream_uses limits (c.keeps_self w)).obeys.accounted rfl fun hungry cannot => ?_
    rw [c.stream_round.unrolls]
    exact misasks_unrolled (tells_drainTurn Cursor) (tryNext_misasks hungry cannot limits w)
  case take count =>
    refine classified (fun r => r.2.failure?) (complaint?_taken _ _)
      (take_uses count limits (c.keeps_self w)).obeys.accounted rfl ?_
    rintro ⟨some, hungry⟩ cannot
    obtain ⟨count, rfl⟩ := Nat.exists_eq_add_one.mpr some
    rw [take_succ]
    exact misasks_unrolled (tells_drainTurn Cursor) (tryNext_misasks hungry cannot limits w)

end Cursor

/-! ## Change streams -/

namespace ChangeStream

variable {s : ChangeStream} {command : Command} {limits : Limits} {w w' : World}
  {failure : Option Error}

/-- What a change stream does for a command that is no call is classified. -/
theorem classified (tallies : s.Tallies (s.patienceFor limits command) w failure w')
    (uncalled : s.gateway.call? command = none) :
    ∃ es, Classified (.changeStream s) s.gateway command limits w failure w' es := by
  obtain ⟨es, had, accounts⟩ := tallies
  have ends : Ends s.gateway none es failure := Accounts.ends accounts
  rw [← uncalled] at ends
  refine ⟨es, classified_of_ends had ends ?_⟩
  rintro c ⟨⟩

/-- Whatever is asked of a change stream is classified. -/
theorem own_classified {service : Service} (known : s.own? command = some service)
    (limits : Limits) (w : World) :
    ∃ es, Classified (.changeStream s) s.gateway command limits w
      (complaint? (service limits w).1) (service limits w).2.2 es := by
  cases command <;> simp only [own?, Option.some.injEq, reduceCtorEq] at known <;> subst known
  case invoke call into =>
    refine classified ?_
      (s.gateway.call?_invoke (s.resolve_ne_remote call.name call.args call.kwargs) into)
    have plain (o : Outcome) := Result.isPlain_ofOutcome o into
    exact complaint?_worded _ plain _ ▸ s.invoke_tallies limits w call.name call.args call.kwargs
  case look | describe | setTimeout | closeSignal =>
    exact classified (accounted_nothing _ _ _ _) rfl
  case tryNext =>
    refine classified ?_ rfl
    exact complaint?_worded .found (fun _ => rfl) _ ▸ s.tryNext_tallies limits w
  case nextEvent =>
    refine classified ?_ rfl
    exact complaint?_worded .found (fun _ => rfl) _ ▸ s.nextEvent_tallies limits w
  case close =>
    refine classified ?_ rfl
    exact complaint?_worded (fun _ => .done) (fun _ => rfl) _ ▸ s.close_tallies limits w
  case stream =>
    refine classified ?_ rfl
    exact complaint?_drained _ _ ▸ (stream_uses limits (s.keeps_self w)).obeys.accounted
  case take count =>
    refine classified ?_ rfl
    exact complaint?_taken _ _ ▸ (take_uses count limits (s.keeps_self w)).obeys.accounted

end ChangeStream

/-! ## All handles -/

namespace Handle

/-- Whatever only some handles know is classified. -/
theorem own_classified {h : Handle} {g : Gateway} {command : Command} {service : Service}
    (operates : h.gateway? = some g) (known : h.own? command = some service) (limits : Limits)
    (w : World) : ∃ es, Classified h g command limits w (complaint? (service limits w).1)
      (service limits w).2.2 es := by
  cases h with
  | client c =>
    obtain ⟨t, ht, rfl⟩ := Option.map_eq_some_iff.mp known
    cases operates
    exact (c.own_undertakes ht).classified (Client.own_plain ht) rfl (by rintro _ ⟨⟩) w
  | database d =>
    obtain ⟨t, ht, rfl⟩ := Option.map_eq_some_iff.mp known
    cases operates
    exact (d.own_undertakes ht).classified (Database.own_plain ht) rfl (by rintro _ ⟨⟩) w
  | collection c =>
    obtain ⟨t, ht, rfl⟩ := Option.map_eq_some_iff.mp known
    cases operates
    exact (c.own_undertakes ht).classified (Collection.own_plain ht) rfl (by rintro _ ⟨⟩) w
  | cursor c =>
    cases operates
    exact c.own_classified known limits w
  | changeStream s =>
    cases operates
    exact s.own_classified known limits w
  | closeSignal subscription => cases operates

/-- Whatever is asked of a handle with operations, the error that comes of it is classified by what
went over the wire: it names an operation, it tells of misuse if and only if nothing was posted, and
otherwise the last request is to blame and no other one has failed. -/
theorem service_classified {h : Handle} {g : Gateway} {command : Command} {service : Service}
    (operates : h.gateway? = some g) (known : h.service? command = some service) (limits : Limits)
    (w : World) : ∃ es, Classified h g command limits w (complaint? (service limits w).1)
      (service limits w).2.2 es := by
  unfold service? at known
  split at known
  · next t common =>
    -- the command is one that all handles with operations know
    cases known
    rw [operates] at common
    obtain ⟨patient, other⟩ := of_common common h limits
    exact (g.common_undertakes common).classified (common_plain common) patient other w
  · exact own_classified operates known limits w

/-- A cursor whose remote side cannot be reached any more. -/
theorem unreachable_service_classified :
    let endpoint : Endpoint := ⟨⟨[], none, .bare [], none, none⟩, []⟩
    let c := Cursor.ofSeed ⟨0, endpoint, .relaxed, 0⟩ .client 0 ⟨some "t", [], none⟩
    let w := World.start (.ofScript [("get_more", ⟨some (.unreachable "refused"), 0⟩)])
    ∃ service es, (cursor c).gateway? = some c.gateway
      ∧ (cursor c).service? .advance = some service
      ∧ complaint? (service ⟨10, none⟩ w).1 = some (.connectivity "get_more" "refused")
      ∧ Classified (cursor c) c.gateway .advance ⟨10, none⟩ w
        (complaint? (service ⟨10, none⟩ w).1) (service ⟨10, none⟩ w).2.2 es := by
  intro endpoint c w
  have operates : (cursor c).gateway? = some c.gateway := rfl
  have known : (cursor c).service? .advance = some _ := rfl
  obtain ⟨es, classified⟩ := service_classified operates known ⟨10, none⟩ w
  exact ⟨_, es, operates, known, by decide +kernel, classified⟩

end Handle

end RemoteDriver
