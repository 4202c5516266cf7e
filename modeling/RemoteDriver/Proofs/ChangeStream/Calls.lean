import RemoteDriver.Proofs.ChangeStream.Signal
import RemoteDriver.Proofs.Life
import RemoteDriver.Proofs.Surface.Overridden

/-!
# Calls on a change stream

What can be asked of a change stream, closing included, and what each call can do.  It leaves the
stream as it is, sets the bound on a fetch, fetches at most once (`Attempted`), fetches in a row
(`Row`), or closes the stream (`Parting`).  Whatever is asked, it comes to one of these
(`entry_served`).

Waiting for an event is the same as fetching again and again under the same limits; what holds of
single fetches need not be proved again for it.
-/

namespace RemoteDriver

open Bson (Document Value)

namespace ChangeStream

open World (Sends)

/-! ## Calls and what they come to -/

/-- What can be asked of a change stream. -/
inductive Demand
  /-- At most one fetch. -/
  | tryNext
  /-- The next event, whatever it takes. -/
  | nextEvent
  /-- Another bound on a fetch. -/
  | setTimeout (timeout : Nat)
  /-- That it is closed. -/
  | close
  /-- Any operation by its name. -/
  | invoke (name : String) (args : List Value) (kwargs : Document)

namespace Demand

/-- What a change stream makes of a demand. -/
def serve (s : ChangeStream) (limits : Limits) (w : World) :
    Demand → Except Halt Result × ChangeStream × World
  | tryNext => (s.tryNext limits w).map (·.map .found) id
  | nextEvent => (s.nextEvent limits w).map (·.map .found) id
  | setTimeout timeout => (.ok .done, s.withTimeout timeout, w)
  | close => (s.close limits w).map (·.map fun _ => .done) id
  | invoke name args kwargs => (s.invoke name args kwargs limits w).map (·.map .outcome) id

/-- The result of a demand for an event. -/
def answer : Demand → Option Document → Result
  | invoke .., event => .outcome (.value (Outcome.ofDocument? event))
  | _, event => .found event

/-- Whether a demand is a call of an operation by its name with arguments that fit. -/
def Names (s : ChangeStream) (operation : String) : Demand → Prop
  | invoke name args kwargs => name = operation ∧ s.gateway.resolve name args kwargs = .ok .handle
  | _ => False

/-- Whether at most one fetch is asked for. -/
def Tries (s : ChangeStream) (d : Demand) : Prop := d = tryNext ∨ d.Names s "try_next"

/-- Whether the next event is asked for. -/
def Waits (s : ChangeStream) (d : Demand) : Prop := d = nextEvent ∨ d.Names s "next"

/-- Whether the stream is to be closed. -/
def Closes (s : ChangeStream) (d : Demand) : Prop := d = close ∨ d.Names s "close"

/-- Until when a request for a demand is waited for. -/
def patience (s : ChangeStream) (limits : Limits) : Demand → Nat → Nat
  | close, _ => limits.deadline
  | invoke name .., now => if name = "close" then limits.deadline else s.endurance limits now
  | _, now => s.endurance limits now

end Demand

/-- What the call on an occasion comes to. -/
def entry (s : ChangeStream) (o : Occasion Demand) : Entry ChangeStream :=
  let (result, after, w) := o.demand.serve s o.limits o.world
  ⟨World.exchanges (some s.serial) (o.demand.patience s o.limits) o.world w, result, after, w⟩

/-- What a call comes to is told by its exchanges and what it leaves. -/
theorem entry_eq {s s' : ChangeStream} {o : Occasion Demand} {es : List Exchange}
    {r : Except Halt Result} {w' : World}
    (served : o.demand.serve s o.limits o.world = (r, s', w'))
    (told : World.exchanges (some s.serial) (o.demand.patience s o.limits) o.world w' = es) :
    s.entry o = ⟨es, r, s', w'⟩ := by
  unfold entry
  rw [served]
  exact congrArg (Entry.mk · r s' w') told

/-- The call that fetches at most one event. -/
theorem entry_tryNext {s s' : ChangeStream} {limits : Limits} {w w' : World} {es : List Exchange}
    {r : Except Halt (Option Document)} (fetched : s.tryNext limits w = (r, s', w'))
    (sends : Sends (some s.serial) (s.endurance limits) w es w') :
    s.entry ⟨.tryNext, limits, w⟩ = ⟨es, r.map .found, s', w'⟩ := by
  refine entry_eq ?_ sends.exchanges_eq
  rw [Demand.serve, fetched]
  rfl

/-! ## Waiting for an event -/

/-- Waiting for an event as a row of fetches. -/
structure Row (s : ChangeStream) (limits : Limits) (w : World) (os : List (Occasion Demand))
    (r : Except Halt (Option Document)) (s' : ChangeStream) (w' : World) : Prop where
  /-- Each of them is under the same limits, and where the close signal has not fired before, it has
  not fired for any of them. -/
  tries : ∀ o ∈ os, o.demand = .tryNext ∧ o.limits = limits
    ∧ o.world.hasFired s.serial = w.hasFired s.serial
  /-- None of them begins after the close signal fires. -/
  timely : ∀ time, s.closingTime limits = some time → w.now ≤ time → ∀ o ∈ os, o.world.now ≤ time
  /-- They are all that goes over the wire. -/
  sends : Sends (some s.serial) (s.endurance limits) w (exchanged (life entry s os)) w'
  /-- They leave the stream as waiting leaves it. -/
  after : lived entry s os = s'
  /-- The result is that of the last one, and after no other one it could stay at that. -/
  last : ∃ before final, life entry s os = before ++ [final] ∧ final.result = r.map .found
    ∧ ∀ b ∈ before, ∃ q, b.result = q.map .found ∧ GoesOn q b.after
  /-- It stays at the last one. -/
  stops : ¬ GoesOn r s'

/-- The time at which a close signal fires depends on the number of the stream only. -/
theorem closingTime_eq {s s' : ChangeStream} (serial : s'.serial = s.serial) (limits : Limits) :
    s'.closingTime limits = s.closingTime limits := by
  unfold closingTime
  rw [serial]

/-- How long a stream endures depends on its number and its bound only. -/
theorem endurance_eq {s s' : ChangeStream} (serial : s'.serial = s.serial)
    (timeout : s'.timeout = s.timeout) (limits : Limits) :
    s'.endurance limits = s.endurance limits := by
  unfold endurance patience cut
  rw [closingTime_eq serial, timeout]

/-- A single fetch is a row. -/
theorem row_single {s s' : ChangeStream} {limits : Limits} {w w' : World}
    {r : Except Halt (Option Document)} (fetched : s.tryNext limits w = (r, s', w'))
    (stops : ¬ GoesOn r s') : Row s limits w [⟨.tryNext, limits, w⟩] r s' w' := by
  obtain ⟨es, attempted⟩ := s.attempted limits w
  rw [fetched] at attempted
  have row := entry_tryNext fetched attempted.sends
  refine ⟨?_, ?_, ?_, ?_, ⟨[], _, rfl, ?_, by simp⟩, stops⟩
  · intro o member
    cases List.mem_singleton.mp member
    exact ⟨rfl, rfl, rfl⟩
  · intro time _ ahead o member
    cases List.mem_singleton.mp member
    exact ahead
  · rw [life, life, exchanged_singleton, row]
    exact attempted.sends
  · rw [lived, lived, row]
  · rw [row]

/-- A fetch after which it goes on, before a row. -/
theorem Row.cons {s s' s'' : ChangeStream} {limits : Limits} {w w' w'' : World}
    {os : List (Occasion Demand)} {q r : Except Halt (Option Document)}
    (row : Row s' limits w' os r s'' w'') (fetched : s.tryNext limits w = (q, s', w'))
    (again : GoesOn q s') : Row s limits w (⟨.tryNext, limits, w⟩ :: os) r s'' w'' := by
  obtain ⟨es, attempted⟩ := s.attempted limits w
  rw [fetched] at attempted
  have first := entry_tryNext fetched attempted.sends
  obtain ⟨_, _, serial, timeout⟩ := attempted.same
  have closing := closingTime_eq serial limits
  have patient := endurance_eq serial timeout limits
  refine ⟨?_, ?_, ?_, ?_, ?_, row.stops⟩
  · intro o member
    rcases List.mem_cons.mp member with rfl | member
    · exact ⟨rfl, rfl, rfl⟩
    · obtain ⟨tries, same, fired⟩ := row.tries o member
      rw [serial] at fired
      exact ⟨tries, same, fired.trans (attempted.sends.hasFired s.serial)⟩
  · intro time fires ahead o member
    rcases List.mem_cons.mp member with rfl | member
    · exact ahead
    · exact row.timely time (closing.trans fires) (attempted.now_le fires ahead) o member
  · have rest := row.sends
    rw [serial, patient] at rest
    rw [life, exchanged_cons, first]
    exact attempted.sends.trans rest
  · rw [lived, first]
    exact row.after
  · obtain ⟨before, final, rows, result, goesOn⟩ := row.last
    refine ⟨s.entry ⟨.tryNext, limits, w⟩ :: before, final, ?_, result, ?_⟩
    · rw [life, first, rows]
      rfl
    · rintro b member
      rcases List.mem_cons.mp member with rfl | member
      · rw [first]
        exact ⟨q, rfl, again⟩
      · exact goesOn b member

/-- Waiting for an event is a row of fetches. -/
theorem nextEvent_row (s : ChangeStream) (limits : Limits) (w : World) :
    ∃ os, Row s limits w os (s.nextEvent limits w).1 (s.nextEvent limits w).2.1
      (s.nextEvent limits w).2.2 := by
  refine nextEvent_induction (motive := fun s w r => ∃ os, Row s limits w os r.1 r.2.1 r.2.2)
    (fun fetched stops => ⟨_, row_single fetched stops⟩) (fun fetched goesOn row => ?_) s w
  obtain ⟨os, row⟩ := row
  exact ⟨_, row.cons fetched goesOn⟩

/-! ## Closing -/

/-- What closing a change stream sends: nothing where no token is held or the client refuses, and
one request with the token otherwise. -/
def Parting (s : ChangeStream) (w : World) (es : List Exchange) : Prop :=
  (es = [] ∧ (s.streamId = none ∨ w.isClosed s.connection.client = true))
    ∨ ∃ id e, s.streamId = some id ∧ w.isClosed s.connection.client = false
      ∧ e.request = s.connection.request ⟨"close", [], [], s.origin.stateful .changeStream id⟩
      ∧ es = [e]

/-- What closing sends is one request, with the token that is held. -/
theorem Parting.asks {s : ChangeStream} {w : World} {es : List Exchange} {e : Exchange}
    (parting : s.Parting w es) (member : e ∈ es) : es = [e] ∧ ∃ id, s.streamId = some id
      ∧ e.request = s.connection.request ⟨"close", [], [], s.origin.stateful .changeStream id⟩ := by
  rcases parting with ⟨rfl, _⟩ | ⟨id, e', held, _, request, rfl⟩
  · cases member
  · cases List.mem_singleton.mp member
    exact ⟨rfl, id, held, request⟩

/-- A close signal that fires closes no client. -/
theorem isClosed_fire (w : World) (serial client : Nat) :
    (w.fire serial).isClosed client = w.isClosed client := by
  unfold World.fire
  split <;> rfl

/-- Closing sends what has to be sent for it, fires the signal, and leaves the stream empty. -/
theorem close_parting (s : ChangeStream) (limits : Limits) (w : World) :
    ∃ es, World.exchanges (some s.serial) (fun _ => limits.deadline) w (s.close limits w).2.2 = es
      ∧ s.Parting w es ∧ (s.close limits w).2.1 = s.emptied
      ∧ (s.close limits w).2.2.hasFired s.serial = true := by
  have told {es : List Exchange} {w' : World} (sends : Sends (some s.serial)
      (fun _ => limits.deadline) (w.fire s.serial) es w') :
      World.exchanges (some s.serial) (fun _ => limits.deadline) w w' = es
        ∧ w'.hasFired s.serial = true := by
    rw [World.exchanges_fire _ _ _ _ s.serial]
    exact ⟨sends.exchanges_eq, (sends.hasFired s.serial).trans (w.hasFired_fire s.serial)⟩
  unfold close
  dsimp only
  split
  · next id held =>
    rcases s.connection.dispatch_refused_or_sent (some s.serial) (.bare "close")
        (s.origin.stateful .changeStream id) limits (w.fire s.serial)
      with ⟨err, refuses, hd⟩ | ⟨e, w', carries, sends, hd⟩
    · have closed := refuses.bare
      rw [isClosed_fire] at closed
      rw [hd]
      obtain ⟨quiet, fired⟩ := told (.nil _ _ _)
      exact ⟨[], quiet, .inl ⟨rfl, .inr closed⟩, rfl, fired⟩
    · have isOpen := carries.isOpen
      rw [isClosed_fire] at isOpen
      rw [hd]
      obtain ⟨one, fired⟩ := told sends
      have parting : s.Parting w [e] := .inr ⟨id, e, held, isOpen, carries.bare, rfl⟩
      cases e.result s.connection.codec .abandoned <;> exact ⟨[e], one, parting, rfl, fired⟩
  · next held =>
    obtain ⟨quiet, fired⟩ := told (.nil _ _ _)
    exact ⟨[], quiet, .inl ⟨rfl, .inl held⟩, rfl, fired⟩

/-! ## One call -/

/-- What a call can do. -/
inductive Served (s : ChangeStream) (o : Occasion Demand) :
    List Exchange → Except Halt Result → ChangeStream → World → Prop
  /-- The stream stays as it is. -/
  | still {r : Except Halt Result} (idle : ¬ o.demand.Tries s) (brisk : ¬ o.demand.Waits s)
      (kept : ¬ o.demand.Closes s) : Served s o [] r s o.world
  /-- The bound on a fetch is set. -/
  | timed {r : Except Halt Result} (timeout : Nat) (idle : ¬ o.demand.Tries s)
      (brisk : ¬ o.demand.Waits s) (kept : ¬ o.demand.Closes s) :
      Served s o [] r (s.withTimeout timeout) o.world
  /-- At most one fetch is made. -/
  | tried {es : List Exchange} {q : Except Halt (Option Document)} {s' : ChangeStream} {w' : World}
      (tries : o.demand.Tries s) (brisk : ¬ o.demand.Waits s) (kept : ¬ o.demand.Closes s)
      (attempt : Attempted s o.limits o.world es q s' w') :
      Served s o es (q.map o.demand.answer) s' w'
  /-- Fetches are made in a row. -/
  | waited {os : List (Occasion Demand)} {q : Except Halt (Option Document)} {s' : ChangeStream}
      {w' : World} (idle : ¬ o.demand.Tries s) (waits : o.demand.Waits s)
      (kept : ¬ o.demand.Closes s) (row : Row s o.limits o.world os q s' w') :
      Served s o (exchanged (life entry s os)) (q.map o.demand.answer) s' w'
  /-- The stream is closed. -/
  | parted {es : List Exchange} {r : Except Halt Result} {w' : World} (idle : ¬ o.demand.Tries s)
      (brisk : ¬ o.demand.Waits s) (closes : o.demand.Closes s) (parting : s.Parting o.world es)
      (fired : w'.hasFired s.serial = true) : Served s o es r s.emptied w'

section invoke

variable (s : ChangeStream) {name : String} {args : List Value} {kwargs : Document}
  (limits : Limits) (w : World)

/-- A call by another name does not ask for a single fetch. -/
theorem not_tries (other : name ≠ "try_next") : ¬ (Demand.invoke name args kwargs).Tries s := by
  rintro (same | names)
  · cases same
  · exact other names.1

/-- A call by another name does not wait for an event. -/
theorem not_waits (other : name ≠ "next") : ¬ (Demand.invoke name args kwargs).Waits s := by
  rintro (same | names)
  · cases same
  · exact other names.1

/-- A call by another name does not close the stream. -/
theorem not_closes (other : name ≠ "close") : ¬ (Demand.invoke name args kwargs).Closes s := by
  rintro (same | names)
  · cases same
  · exact other names.1

/-- What the stream itself makes of a call by name whose arguments fit. -/
theorem answer_served (fits : s.gateway.resolve name args kwargs = .ok .handle) :
    Served s ⟨.invoke name args kwargs, limits, w⟩
      (World.exchanges (some s.serial) ((Demand.invoke name args kwargs).patience s limits) w
        (s.answer name limits w).2.2)
      ((s.answer name limits w).1.map .outcome) (s.answer name limits w).2.1
      (s.answer name limits w).2.2 := by
  unfold answer
  dsimp only
  split
  · next named =>
    subst named
    rw [World.exchanges_self]
    exact .still (not_tries s (by decide)) (not_waits s (by decide)) (not_closes s (by decide))
  split
  · next named =>
    subst named
    rw [World.exchanges_self]
    exact .still (not_tries s (by decide)) (not_waits s (by decide)) (not_closes s (by decide))
  split
  · next named =>
    subst named
    obtain ⟨es, attempt⟩ := s.attempted limits w
    generalize s.tryNext limits w = a at attempt
    obtain ⟨q, s', w'⟩ := a
    have told : World.exchanges (some s.serial)
        ((Demand.invoke "try_next" args kwargs).patience s limits) w w' = es :=
      attempt.sends.exchanges_eq
    have served := Served.tried (o := ⟨.invoke "try_next" args kwargs, limits, w⟩)
      (.inr ⟨rfl, fits⟩) (not_waits s (by decide)) (not_closes s (by decide)) attempt
    cases q <;> exact told ▸ served
  split
  · next named =>
    subst named
    obtain ⟨os, row⟩ := s.nextEvent_row limits w
    generalize s.nextEvent limits w = a at row
    obtain ⟨q, s', w'⟩ := a
    have told : World.exchanges (some s.serial)
        ((Demand.invoke "next" args kwargs).patience s limits) w w' = exchanged (life entry s os) :=
      row.sends.exchanges_eq
    have served := Served.waited (o := ⟨.invoke "next" args kwargs, limits, w⟩)
      (not_tries s (by decide)) (.inr ⟨rfl, fits⟩) (not_closes s (by decide)) row
    cases q <;> exact told ▸ served
  split
  · next named =>
    subst named
    obtain ⟨es, told, parting, after, fired⟩ := s.close_parting limits w
    generalize s.close limits w = a at told after fired
    obtain ⟨q, s', w'⟩ := a
    subst after
    have closes : (Demand.invoke "close" args kwargs).Closes s := .inr ⟨rfl, fits⟩
    have told : World.exchanges (some s.serial)
        ((Demand.invoke "close" args kwargs).patience s limits) w w' = es := told
    cases q <;>
      exact told ▸ .parted (not_tries s (by decide)) (not_waits s (by decide)) closes parting fired
  · next tries waits closes =>
    rw [World.exchanges_self]
    exact .still (not_tries s tries) (not_waits s waits) (not_closes s closes)

end invoke

/-- Whatever is asked of a change stream, it does one of these. -/
theorem serve_served (s : ChangeStream) (d : Demand) (limits : Limits) (w : World) :
    Served s ⟨d, limits, w⟩
      (World.exchanges (some s.serial) (d.patience s limits) w (d.serve s limits w).2.2)
      (d.serve s limits w).1 (d.serve s limits w).2.1 (d.serve s limits w).2.2 := by
  cases d with
  | tryNext =>
    obtain ⟨es, attempt⟩ := s.attempted limits w
    have told : World.exchanges (some s.serial) (Demand.tryNext.patience s limits) w
        (Demand.tryNext.serve s limits w).2.2 = es := attempt.sends.exchanges_eq
    rw [told]
    exact .tried (.inl rfl) (by simp [Demand.Waits, Demand.Names])
      (by simp [Demand.Closes, Demand.Names]) attempt
  | nextEvent =>
    obtain ⟨os, row⟩ := s.nextEvent_row limits w
    have told : World.exchanges (some s.serial) (Demand.nextEvent.patience s limits) w
        (Demand.nextEvent.serve s limits w).2.2 = exchanged (life entry s os) :=
      row.sends.exchanges_eq
    rw [told]
    exact .waited (by simp [Demand.Tries, Demand.Names]) (.inl rfl)
      (by simp [Demand.Closes, Demand.Names]) row
  | setTimeout timeout =>
    dsimp only [Demand.serve]
    rw [World.exchanges_self]
    exact .timed timeout (by simp [Demand.Tries, Demand.Names])
      (by simp [Demand.Waits, Demand.Names]) (by simp [Demand.Closes, Demand.Names])
  | close =>
    obtain ⟨es, told, parting, after, fired⟩ := s.close_parting limits w
    have told : World.exchanges (some s.serial) (Demand.close.patience s limits) w
        (Demand.close.serve s limits w).2.2 = es := told
    have emptied : (Demand.close.serve s limits w).2.1 = s.emptied := after
    rw [told, emptied]
    exact .parted (by simp [Demand.Tries, Demand.Names]) (by simp [Demand.Waits, Demand.Names])
      (.inl rfl) parting fired
  | invoke name args kwargs =>
    dsimp only [Demand.serve]
    unfold invoke
    cases fits : s.gateway.resolve name args kwargs with
    | error err =>
      have misfit (operation : String) : ¬ (Demand.invoke name args kwargs).Names s operation := by
        rintro ⟨_, fit⟩
        cases fits.symm.trans fit
      dsimp only [Prod.map, id]
      rw [World.exchanges_self]
      exact .still (by simp [Demand.Tries, misfit]) (by simp [Demand.Waits, misfit])
        (by simp [Demand.Closes, misfit])
    | ok server =>
      cases server with
      | remote => exact absurd fits (s.resolve_ne_remote name args kwargs)
      | handle => exact s.answer_served limits w fits

/-- The same of a call as it is told. -/
theorem entry_served (s : ChangeStream) (o : Occasion Demand) :
    Served s o (s.entry o).exchanges (s.entry o).result (s.entry o).after (s.entry o).left :=
  s.serve_served o.demand o.limits o.world

end ChangeStream

end RemoteDriver
