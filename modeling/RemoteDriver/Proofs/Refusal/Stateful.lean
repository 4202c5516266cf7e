import RemoteDriver.Proofs.Refusal.Exhaustive

/-!
# Refusals of cursors and change streams

An open cursor that ends a command by misuse has refused it, or the size of its batches has no form
on the wire; an open change stream has refused it.  On a closed client they do what they do on an
open one, or the connection says that it has been closed.

With that it holds of all handles that the reasons to refuse are all that there are
(`Handle.refuses_or_balks`).
-/

namespace RemoteDriver

open Bson (Document Value)
open RemoteDriver.Action

/-- Operations in a row that end by misuse have been refused. -/
theorem Ran.refusable_of_misuse {codec : Codec} {sender : Sender} {deadline : Nat → Nat}
    {refusable : Prop} {w w' : World} {err : Error}
    (ran : Ran codec sender deadline refusable w (some err) w') (misuse : err.IsMisuse) :
    refusable := by
  obtain ⟨es, _, course⟩ := ran
  by_cases silent : es = []
  · exact (course.refused err rfl silent).1
  · obtain ⟨_, _, _, blames, _⟩ := course.blamed err rfl silent
    exact absurd misuse blames.not_isMisuse

/-- A request without arguments is not refused while the client is open. -/
theorem Connection.not_misuse_of_bare {c : Connection} {sender : Sender} {name : String}
    {route : Route} {limits : Limits} {w : World} {err : Error}
    (isOpen : w.isClosed c.client = false)
    (failed : failure? (c.dispatch sender (.bare name) route limits w).1 = some err) :
    ¬ err.IsMisuse := by
  intro misuse
  have shut := (refuses_of_usage (eq_error_of_failure? failed) misuse).1.bare
  cases isOpen.symm.trans shut

/-! ## Closed clients -/

/-- A command that an open handle ends by misuse has been refused, in whatever world, or would ask
for batches of a size that has no form on the wire. -/
def Handle.RefusesOpen (h : Handle) (command : Command) (err : Error) : Prop :=
  (∀ w, h.Refuses w command err)
    ∨ ∃ c, h = .cursor c ∧ Cursor.MayAsk command ∧ ¬ c.getMore.Encodes c.connection.codec

/-- What a handle does on a closed client is what it does on an open one, or the connection refuses
it. -/
theorem Handle.exhausts_of_open {h : Handle} {g : Gateway} {command : Command} {service : Service}
    (known : h.service? command = some service)
    (gated : GatedService g.connection.client command service)
    (refused : ∀ limits w err, w.isClosed g.connection.client = false →
      complaint? (service limits w).1 = some err → err.IsMisuse → h.RefusesOpen command err)
    (w : World) : h.Exhausts g w command := by
  intro service' limits err known' told misuse
  cases known.symm.trans known'
  have concludes (open_ : h.RefusesOpen command err) :
      h.Refuses w command err ∨ h.Balks g w command err := by
    rcases open_ with refuses | ⟨c, same, asks, cannot⟩
    · exact .inl (refuses w)
    · exact .inr (.batch c same asks cannot)
  rcases shut : w.isClosed g.connection.client with _ | _
  · exact concludes (refused limits w err shut told misuse)
  · have compared := gated.compares g.connection.client limits w fun _ => shut
    cases compared with
    | alike same quiet =>
      have told' : complaint? (service limits (w.reopened g.connection.client)).1 = some err := by
        rw [show (service limits (w.reopened g.connection.client)).1 = (service limits w).1 from
          congrArg (fun p => p.1.1) same]
        exact told
      exact concludes (refused limits _ err (w.isClosed_reopened_self _) told' misuse)
    | gated _ operation _ closed _ =>
      exact .inr (.closed shut operation (Option.some.inj (told.symm.trans closed)))

/-! ## Cursors -/

namespace Cursor

variable {c : Cursor} {limits : Limits} {w w' : World} {err : Error} {command : Command}

/-- Where a cursor of an open client asks and ends by misuse, the size of batches is to blame. -/
theorem not_encodes_of_asks (isOpen : w.isClosed c.connection.client = false)
    (asks : Asks c.connection c.serial c.getMore (w.isClosed c.connection.client) limits w
      (some err) w') (misuse : err.IsMisuse) : ¬ c.getMore.Encodes c.connection.codec := by
  rcases asks.refusable_of_misuse misuse with shut | cannot
  · cases isOpen.symm.trans shut
  · exact cannot

/-- A cursor of an open client that is closed does not end by misuse. -/
theorem not_misuse_of_close (isOpen : w.isClosed c.connection.client = false)
    (failed : failure? (c.close limits w).1 = some err) : ¬ err.IsMisuse := by
  unfold close at failed
  dsimp only at failed
  split at failed
  · next token held =>
    split at failed
    · have asked : failure? (c.connection.dispatch (some c.serial) (.bare "close")
          (c.origin.stateful .commandCursor token) limits w).1 = some err → ¬ err.IsMisuse :=
        Connection.not_misuse_of_bare isOpen
      generalize c.connection.dispatch (some c.serial) (.bare "close")
        (c.origin.stateful .commandCursor token) limits w = r at failed asked
      obtain ⟨(err' | _) | reply, w'⟩ := r <;> exact asked failed
    · cases failed
  · cases failed

/-- A call by name that a cursor of an open client accepts and answers itself. -/
theorem refused_of_answer (isOpen : w.isClosed c.connection.client = false) {call : Call}
    {into : Option Outcome.Kind} (own : call.name ∈ localOperations)
    (accepts : Shape.cursor.Accepts localOperations call)
    (failed : failure? (c.answer call.name call.args call.kwargs limits w).1 = some err)
    (misuse : err.IsMisuse) : (Handle.cursor c).RefusesOpen (.invoke call into) err := by
  unfold answer at failed
  split at failed
  · cases failed
  next alive =>
  split at failed
  · cases failed
  next token =>
  split at failed
  · cases failed
  next absent =>
  split at failed
  · next next =>
    have asks := (tryNext_uses limits (c.keeps_self w)).obeys
    have same : failure? (c.tryNext limits w).1 = some err := by
      generalize c.tryNext limits w = r at failed
      obtain ⟨(err' | _) | d, c', w'⟩ := r <;> exact failed
    rw [same] at asks
    exact .inr ⟨c, rfl, next, not_encodes_of_asks isOpen asks misuse⟩
  next next =>
  split at failed
  · have same : failure? (c.close limits w).1 = some err := by
      generalize c.close limits w = r at failed
      obtain ⟨(err' | _) | _, c', w'⟩ := r <;> exact failed
    exact absurd misuse (not_misuse_of_close isOpen same)
  next close =>
  split at failed
  · next size =>
    rcases given : sizeArgument call.args call.kwargs with _ | n
    · rw [given, size] at failed
      cases failed
      have outside := (sizeArgument_eq_none call).mp given
      exact .inl fun _ => .cursor (.size size accepts outside)
    · rw [given] at failed
      cases failed
  next size =>
  have none : call.name ∉ localOperations := by
    simp only [not_or] at absent next
    simp [localOperations, alive, token, absent, next, close, size]
  exact absurd own none

/-- A call by name on a cursor of an open client. -/
theorem refused_of_invoke (isOpen : w.isClosed c.connection.client = false) {call : Call}
    {into : Option Outcome.Kind}
    (failed : failure? (c.invoke call.name call.args call.kwargs limits w).1 = some err)
    (misuse : err.IsMisuse) : (Handle.cursor c).RefusesOpen (.invoke call into) err := by
  unfold invoke at failed
  rcases Gateway.resolve_cases c.serves call with ⟨err', refused, declines⟩ | ⟨remote, _⟩
    | ⟨handle, own, accepts⟩
  · rw [refused] at failed
    cases failed
    exact .inl fun _ => .invoke rfl declines into
  · exact absurd remote (c.resolve_ne_remote _ _ _)
  · rw [handle] at failed
    exact refused_of_answer isOpen own accepts failed misuse

/-- A command that a cursor of an open client ends by misuse has been refused, or would ask for
batches of a size that has no form on the wire. -/
theorem refused_of_open {service : Service} (known : c.own? command = some service)
    (isOpen : w.isClosed c.connection.client = false)
    (told : complaint? (service limits w).1 = some err) (misuse : err.IsMisuse) :
    (Handle.cursor c).RefusesOpen command err := by
  have asking {failure : Option Error} {w' : World} (mayAsk : MayAsk command)
      (asks : Asks c.connection c.serial c.getMore (w.isClosed c.connection.client) limits w
        failure w') (failed : failure = some err) :
      (Handle.cursor c).RefusesOpen command err := by
    subst failed
    exact .inr ⟨c, rfl, mayAsk, not_encodes_of_asks isOpen asks misuse⟩
  cases command <;> simp only [own?, Option.some.injEq, reduceCtorEq] at known <;> subst known
  case invoke call into =>
    have plain (o : Outcome) := Result.isPlain_ofOutcome o into
    exact refused_of_invoke isOpen ((complaint?_worded _ plain _).symm.trans told) misuse
  case look | describe | batchSize => cases told
  case advance =>
    exact asking trivial (advance_uses limits (c.keeps_self w)).obeys
      ((complaint?_worded .truth (fun _ => rfl) _).symm.trans told)
  case tryNext =>
    exact asking trivial (tryNext_uses limits (c.keeps_self w)).obeys
      ((complaint?_worded .found (fun _ => rfl) _).symm.trans told)
  case close =>
    have failed := (complaint?_worded (fun _ : Unit => .done) (fun _ => rfl) _).symm.trans told
    exact absurd misuse (not_misuse_of_close isOpen failed)
  case collect =>
    exact asking trivial (collect_uses limits (c.keeps_self w)).obeys
      ((complaint?_worded .documents (fun _ => rfl) _).symm.trans told)
  case stream =>
    exact asking trivial (stream_uses limits (c.keeps_self w)).obeys
      ((complaint?_drained _ _).symm.trans told)
  case take count =>
    exact asking trivial (take_uses count limits (c.keeps_self w)).obeys
      ((complaint?_taken _ _).symm.trans told)

/-- Whatever a cursor knows of its own. -/
theorem own_exhausts {service : Service} (known : c.own? command = some service) (w : World) :
    (Handle.cursor c).Exhausts c.gateway w command := by
  have serves : (Handle.cursor c).service? command = some service := Handle.service?_of_own known
  exact Handle.exhausts_of_open serves (own_gated known)
    (fun _ _ _ isOpen => refused_of_open known isOpen) w

end Cursor

/-! ## Change streams -/

namespace ChangeStream

variable {s : ChangeStream} {limits : Limits} {w w' : World} {err : Error} {command : Command}

/-- A change stream of an open client that asks does not end by misuse. -/
theorem not_misuse_of_asks (isOpen : w.isClosed s.connection.client = false)
    (asks : Asks s (w.isClosed s.connection.client) limits w (some err) w') : ¬ err.IsMisuse := by
  intro misuse
  have shut := asks.refusable_of_misuse misuse
  cases isOpen.symm.trans shut

/-- A change stream of an open client that is closed does not end by misuse. -/
theorem not_misuse_of_close (isOpen : w.isClosed s.connection.client = false)
    (failed : failure? (s.close limits w).1 = some err) : ¬ err.IsMisuse := by
  have stays : (w.fire s.serial).isClosed s.connection.client = false := by
    unfold World.fire
    split <;> exact isOpen
  unfold close at failed
  dsimp only at failed
  split at failed
  · next id held =>
    have asked : failure? (s.connection.dispatch (some s.serial) (.bare "close")
        (s.origin.stateful .changeStream id) limits (w.fire s.serial)).1 = some err →
          ¬ err.IsMisuse :=
      Connection.not_misuse_of_bare stays
    generalize s.connection.dispatch (some s.serial) (.bare "close")
      (s.origin.stateful .changeStream id) limits (w.fire s.serial) = r at failed asked
    obtain ⟨(err' | _) | reply, w'⟩ := r <;> exact asked failed
  · cases failed

/-- A call by name that a change stream of an open client answers itself does not end by misuse. -/
theorem not_misuse_of_answer (isOpen : w.isClosed s.connection.client = false) {name : String}
    (own : name ∈ localOperations) (failed : failure? (s.answer name limits w).1 = some err) :
    ¬ err.IsMisuse := by
  unfold answer at failed
  dsimp only at failed
  split at failed
  · cases failed
  next alive =>
  split at failed
  · cases failed
  next token =>
  split at failed
  · have same : failure? (s.tryNext limits w).1 = some err := by
      generalize s.tryNext limits w = r at failed
      obtain ⟨(err' | _) | event, s', w'⟩ := r <;> exact failed
    have asks := (tryNext_uses limits (s.keeps_self w)).obeys
    rw [same] at asks
    exact not_misuse_of_asks isOpen asks
  next try_ =>
  split at failed
  · have same : failure? (s.nextEvent limits w).1 = some err := by
      generalize s.nextEvent limits w = r at failed
      obtain ⟨(err' | _) | event, s', w'⟩ := r <;> exact failed
    have asks := (nextEvent_uses limits (s.keeps_self w)).obeys
    rw [same] at asks
    exact not_misuse_of_asks isOpen asks
  next next =>
  split at failed
  · have same : failure? (s.close limits w).1 = some err := by
      generalize s.close limits w = r at failed
      obtain ⟨(err' | _) | _, s', w'⟩ := r <;> exact failed
    exact not_misuse_of_close isOpen same
  next close =>
  have none : name ∉ localOperations := by
    simp [localOperations, alive, token, try_, next, close]
  exact absurd own none

/-- A call by name on a change stream of an open client. -/
theorem refused_of_invoke (isOpen : w.isClosed s.connection.client = false) {call : Call}
    {into : Option Outcome.Kind}
    (failed : failure? (s.invoke call.name call.args call.kwargs limits w).1 = some err)
    (misuse : err.IsMisuse) : (Handle.changeStream s).RefusesOpen (.invoke call into) err := by
  unfold invoke at failed
  rcases Gateway.resolve_cases s.serves call with ⟨err', refused, declines⟩ | ⟨remote, _⟩
    | ⟨handle, own, _⟩
  · rw [refused] at failed
    cases failed
    exact .inl fun _ => .invoke rfl declines into
  · exact absurd remote (s.resolve_ne_remote _ _ _)
  · rw [handle] at failed
    exact absurd misuse (not_misuse_of_answer isOpen own failed)

/-- A command that a change stream of an open client ends by misuse has been refused. -/
theorem refused_of_open {service : Service} (known : s.own? command = some service)
    (isOpen : w.isClosed s.connection.client = false)
    (told : complaint? (service limits w).1 = some err) (misuse : err.IsMisuse) :
    (Handle.changeStream s).RefusesOpen command err := by
  have asking {failure : Option Error} {w' : World}
      (asks : Asks s (w.isClosed s.connection.client) limits w failure w')
      (failed : failure = some err) : (Handle.changeStream s).RefusesOpen command err := by
    subst failed
    exact absurd misuse (not_misuse_of_asks isOpen asks)
  cases command <;> simp only [own?, Option.some.injEq, reduceCtorEq] at known <;> subst known
  case invoke call into =>
    have plain (o : Outcome) := Result.isPlain_ofOutcome o into
    exact refused_of_invoke isOpen ((complaint?_worded _ plain _).symm.trans told) misuse
  case look | describe | setTimeout | closeSignal => cases told
  case tryNext =>
    exact asking (tryNext_uses limits (s.keeps_self w)).obeys
      ((complaint?_worded .found (fun _ => rfl) _).symm.trans told)
  case nextEvent =>
    exact asking (nextEvent_uses limits (s.keeps_self w)).obeys
      ((complaint?_worded .found (fun _ => rfl) _).symm.trans told)
  case close =>
    have failed := (complaint?_worded (fun _ : Unit => .done) (fun _ => rfl) _).symm.trans told
    exact absurd misuse (not_misuse_of_close isOpen failed)
  case stream =>
    exact asking (stream_uses limits (s.keeps_self w)).obeys
      ((complaint?_drained _ _).symm.trans told)
  case take count =>
    exact asking (take_uses count limits (s.keeps_self w)).obeys
      ((complaint?_taken _ _).symm.trans told)

/-- Whatever a change stream knows of its own. -/
theorem own_exhausts {service : Service} (known : s.own? command = some service) (w : World) :
    (Handle.changeStream s).Exhausts s.gateway w command := by
  have serves : (Handle.changeStream s).service? command = some service :=
    Handle.service?_of_own known
  exact Handle.exhausts_of_open serves (own_gated known)
    (fun _ _ _ isOpen => refused_of_open known isOpen) w

end ChangeStream

/-! ## All handles -/

namespace Handle

variable {h : Handle} {g : Gateway} {command : Command}

/-- Whatever is asked of a handle with operations, other than for another client: where it ends by
misuse, the handle has refused it, or the connection has. -/
theorem exhausts (operates : h.gateway? = some g) (alone : ¬ command.BringsClient) (w : World) :
    h.Exhausts g w command := by
  intro service limits err known told misuse
  have given := known
  unfold service? at known
  rw [operates, Option.bind_some] at known
  rcases common : common? g command with _ | t
  · rw [common] at known
    cases h with
    | client c =>
      obtain ⟨t, own, rfl⟩ := Option.map_eq_some_iff.mp known
      cases operates
      exact Client.own_exhausts own alone _ limits err given told misuse
    | database d =>
      obtain ⟨t, own, rfl⟩ := Option.map_eq_some_iff.mp known
      cases operates
      exact Database.own_exhausts own _ limits err given told misuse
    | collection c =>
      obtain ⟨t, own, rfl⟩ := Option.map_eq_some_iff.mp known
      cases operates
      exact Collection.own_exhausts own _ limits err given told misuse
    | cursor c =>
      cases operates
      exact c.own_exhausts known w service limits err given told misuse
    | changeStream s =>
      cases operates
      exact s.own_exhausts known w service limits err given told misuse
    | closeSignal subscription => cases operates
  · obtain ⟨shape, overrides, offers, serves⟩ := offers_of_gateway operates
    exact exhausts_of_common operates offers serves common service limits err given told misuse

/-- A close signal does what it is asked for. -/
theorem complaint?_signalled {subscription : Nat} {t : Action Result} {limits : Limits} {w : World}
    (known : signalled subscription command = some t) : complaint? (t limits w).1 = none := by
  cases command <;> cases known
  case close | isClosed => rfl

/-- Whatever is asked of a handle, other than for another client: where it ends with an error and
nothing is posted, the handle has refused it, or the connection has. -/
theorem refuses_or_balks {service : Service} {limits : Limits} {w : World} {err : Error}
    (alone : ¬ command.BringsClient) (known : h.service? command = some service)
    (told : complaint? (service limits w).1 = some err)
    (silent : (service limits w).2.2.posted = w.posted) :
    h.Refuses w command err ∨ ∃ g, h.gateway? = some g ∧ h.Balks g w command err := by
  rcases operates : h.gateway? with _ | g
  · cases h with
    | closeSignal subscription =>
      obtain ⟨t, offered, rfl⟩ := Option.map_eq_some_iff.mp known
      cases (complaint?_signalled offered).symm.trans told
    | _ => cases operates
  · obtain ⟨es, classified⟩ := service_classified operates known limits w
    have misuse : err.IsMisuse := (classified.misused err told).mpr silent
    refine (exhausts operates alone w service limits err known told misuse).imp_right ?_
    exact fun balks => ⟨g, rfl, balks⟩

end Handle

end RemoteDriver
