import RemoteDriver.Proofs.Closing.Streams
import RemoteDriver.Proofs.Surface.Overridden

/-!
# Commands and closed clients

Whatever a handle makes of a command is gated by the client that the handle belongs to
(`Handle.service_gated`), with the exception of commands about the closing of that client.
-/

namespace RemoteDriver

open Bson (Document Value)

/-! ## Services -/

/-- The error that a result tells; a drain in part shows it after the items. -/
def complaint? : Except Halt Result → Option Error
  | .error (.failed e) => some e
  | .ok (.items _ failure) => failure
  | _ => none

/-- The service of a command is gated by a client.  If no other client is asked for, then what it
brings and what becomes of the handle belong to that client. -/
def GatedService (client : Nat) (command : Command) (service : Service) : Prop :=
  Gated client (fun b : Except Halt Result × Option Handle => complaint? b.1)
    (fun b => Yields (fun r => ¬ command.BringsClient → Belongs client r.handle?) b.1
      ∧ Belongs client b.2)
    fun limits w => paired (service limits w)

/-- A failure is told as it is. -/
theorem complaint?_of_failure {r : Except Halt Result} {e : Error} (failed : failure? r = some e) :
    complaint? r = some e := by
  rcases r with (e' | _) | _
  · exact failed
  · cases failed
  · cases failed

/-- A failure is told as it is in other words. -/
theorem complaint?_map {α : Type} {f : α → Result} {r : Except Halt α} {e : Error}
    (failed : failure? r = some e) : complaint? (r.map f) = some e :=
  complaint?_of_failure ((failure?_map f r).trans failed)

/-- A handle that stays what it is. -/
theorem Action.Gated.steady {client : Nat} {command : Command} {t : Action Result} {h : Handle}
    (gated : t.Gated client fun r => ¬ command.BringsClient → Belongs client r.handle?)
    (belongs : h.BelongsTo client) : GatedService client command (h.steady t) := by
  refine ⟨gated.moves, ?_, fun limits w => ⟨gated.yields limits w, .some belongs⟩⟩
  intro n limits w shut
  refine (gated.compares n limits w shut).map (f := fun r => (r, some h)) ?_
  exact fun r e failed _ => complaint?_of_failure failed

section uses

variable {α σ : Type} {client : Nat} {command : Command} {owned : σ → Prop}

/-- A handle that changes, with the result put into words. -/
theorem GatedUse.served {t : Limits → World → Except Halt α × σ × World}
    (gated : GatedUse client failure? owned t) {f : α → Result} {g : σ → Handle}
    (own : ∀ s, owned s → (g s).client? = some client)
    (brings : ∀ limits w a, (t limits w).1 = .ok a → Belongs client (f a).handle?) :
    GatedService client command
      fun limits w => ((t limits w).1.map f, some (g (t limits w).2.1), (t limits w).2.2) := by
  refine ⟨gated.moves, ?_, ?_⟩
  · intro n limits w shut
    refine (gated.compares n limits w shut).map (f := fun b => (b.1.map f, some (g b.2))) ?_
    exact fun b e failed _ => complaint?_map failed
  · intro limits w
    refine ⟨?_, .some (Handle.belongsTo (own _ (gated.yields limits w)))⟩
    intro r hr _
    have told : (t limits w).1.map f = .ok r := hr
    rcases ht : (t limits w).1 with halt | a
    · rw [ht] at told
      cases told
    · rw [ht] at told
      cases told
      exact brings limits w a ht

/-- A handle that is used up, with a result that is no handle. -/
theorem GatedUse.consumed {error? : α → Option Error} {t : Limits → World → α × σ × World}
    (gated : GatedUse client error? owned t) {f : α → Except Halt Result}
    (keeps : ∀ a e, error? a = some e → complaint? (f a) = some e)
    (plain : ∀ a r, f a = .ok r → r.handle? = none) :
    GatedService client command fun limits w => (f (t limits w).1, none, (t limits w).2.2) := by
  refine ⟨gated.moves, ?_, ?_⟩
  · intro n limits w shut
    refine (gated.compares n limits w shut).map (f := fun b => (f b.1, none)) ?_
    exact fun b e failed _ => keeps b.1 e failed
  · intro limits w
    refine ⟨?_, .none client⟩
    intro r hr _
    rw [plain _ r hr]
    exact .none client

end uses

/-- The items of a drain to the end, or the error that ended it. -/
theorem complaint?_toDocuments {items : List Document} {ending : Ending} {e : Error}
    (failed : ending.failure? = some e) : complaint? (ending.toDocuments items) = some e := by
  cases ending <;> cases failed
  rfl

/-- A drain into documents brings no handle. -/
theorem handle?_toDocuments {items : List Document} {ending : Ending} {r : Result}
    (h : ending.toDocuments items = .ok r) : r.handle? = none := by
  cases ending <;> cases h <;> rfl

/-- The items of a drain in part, and the error that ended it. -/
theorem complaint?_toItems {items : List Document} {ending : Ending} {e : Error}
    (failed : ending.failure? = some e) : complaint? (ending.toItems items) = some e := by
  cases ending <;> cases failed
  rfl

/-- A drain into items brings no handle. -/
theorem handle?_toItems {items : List Document} {ending : Ending} {r : Result}
    (h : ending.toItems items = .ok r) : r.handle? = none := by
  cases ending <;> cases h <;> rfl

namespace Cursor

variable {k : Connection} {c : Cursor}

/-! ## Calls of cursors by name -/

/-- An operation of a cursor is gated by the client. -/
theorem answer_gated (own : c.connection = k) (name : String) (args : List Value)
    (kwargs : Document) :
    GatedUse k.client failure? (fun c => c.connection = k) (c.answer name args kwargs) := by
  -- the names are told apart in the order in which the cursor does it
  by_cases alive : name = "alive"
  · refine IsOver.gated ⟨.ok (.value (.boolean c.isAlive)), c, own, fun limits w => ?_⟩
    unfold answer
    exact if_pos alive
  by_cases token : name = "cursor_id"
  · refine IsOver.gated ⟨.ok (.value (Outcome.ofText? c.cursorId)), c, own, fun limits w => ?_⟩
    unfold answer
    rw [if_neg alive]
    exact if_pos token
  by_cases absent : name = "address" ∨ name = "session"
  · refine IsOver.gated ⟨.ok (.value .null), c, own, fun limits w => ?_⟩
    unfold answer
    rw [if_neg alive, if_neg token]
    exact if_pos absent
  by_cases next : name = "next" ∨ name = "try_next"
  · have same : c.answer name args kwargs = fun limits w =>
        ((c.tryNext limits w).1.map fun d => Outcome.value (Outcome.ofDocument? d),
          (c.tryNext limits w).2.1, (c.tryNext limits w).2.2) := by
      funext limits w
      unfold answer
      rw [if_neg alive, if_neg token, if_neg absent, if_pos next]
      rcases c.tryNext limits w with ⟨_ | d, c', w'⟩ <;> rfl
    rw [same]
    exact (tryNext_gated own).reword _
  by_cases close : name = "close"
  · have same : c.answer name args kwargs = fun limits w =>
        ((c.close limits w).1.map fun _ => Outcome.value .null, (c.close limits w).2.1,
          (c.close limits w).2.2) := by
      funext limits w
      unfold answer
      rw [if_neg alive, if_neg token, if_neg absent, if_neg next, if_pos close]
      rcases c.close limits w with ⟨_ | _, c', w'⟩ <;> rfl
    rw [same]
    exact (close_gated own).reword _
  by_cases limit : name = "batch_size"
  · rcases asked : sizeArgument args kwargs with _ | size
    · refine IsOver.gated
        ⟨.error (.failed (.usage name "batch_size must be a non-negative integer")),
        c, own, fun limits w => ?_⟩
      unfold answer
      rw [if_neg alive, if_neg token, if_neg absent, if_neg next, if_neg close, if_pos limit, asked]
    · refine IsOver.gated ⟨.ok (.value .null), c.withBatchSize size, own, fun limits w => ?_⟩
      unfold answer
      rw [if_neg alive, if_neg token, if_neg absent, if_neg next, if_neg close, if_pos limit, asked]
  · refine IsOver.gated ⟨.error (.failed (surface.unknownOperation name)), c, own,
      fun limits w => ?_⟩
    unfold answer
    rw [if_neg alive, if_neg token, if_neg absent, if_neg next, if_neg close]
    exact if_neg limit

/-- A call of a cursor by name is gated by the client. -/
theorem invoke_gated (own : c.connection = k) (name : String) (args : List Value)
    (kwargs : Document) :
    GatedUse k.client failure? (fun c => c.connection = k) (c.invoke name args kwargs) := by
  rcases served : c.gateway.resolve name args kwargs with e | _ | _
  · refine IsOver.gated ⟨.error (.failed e), c, own, fun limits w => ?_⟩
    unfold invoke
    rw [served]
  · exact absurd served (c.resolve_ne_remote name args kwargs)
  · have same : c.invoke name args kwargs = c.answer name args kwargs := by
      funext limits w
      unfold invoke
      rw [served]
    rw [same]
    exact answer_gated own name args kwargs

/-- A cursor answers with values. -/
theorem value_of_answer {name : String} {args : List Value} {kwargs : Document} {limits : Limits}
    {w : World} {o : Outcome} (h : (c.answer name args kwargs limits w).1 = .ok o) :
    ∃ v, o = .value v := by
  unfold answer at h
  split at h
  · cases h
    exact ⟨_, rfl⟩
  split at h
  · cases h
    exact ⟨_, rfl⟩
  split at h
  · cases h
    exact ⟨_, rfl⟩
  split at h
  · generalize c.tryNext limits w = r at h
    obtain ⟨_ | d, c', w'⟩ := r <;> cases h
    exact ⟨_, rfl⟩
  split at h
  · generalize c.close limits w = r at h
    obtain ⟨_ | _, c', w'⟩ := r <;> cases h
    exact ⟨_, rfl⟩
  split at h
  · split at h <;> cases h
    exact ⟨_, rfl⟩
  · cases h

/-- The outcome of a call of a cursor by name belongs to the client of the cursor. -/
theorem belongs_invoke (c : Cursor) (name : String) (args : List Value) (kwargs : Document)
    (limits : Limits) (w : World) :
    Yields (fun o => Belongs c.connection.client o.handle?)
      (c.invoke name args kwargs limits w).1 := by
  intro o h
  unfold invoke at h
  split at h
  · cases h
  · next served => exact absurd served (c.resolve_ne_remote name args kwargs)
  · obtain ⟨v, rfl⟩ := value_of_answer h
    exact .none _

/-! ## Commands to cursors -/

/-- Whatever is asked of a cursor is gated. -/
theorem own_gated {command : Command} {service : Service} (known : c.own? command = some service) :
    GatedService c.connection.client command service := by
  have mine (c' : Cursor) (own : c'.connection = c.connection) :
      (Handle.cursor c').client? = some c.connection.client := client_eq own
  cases command <;> simp only [own?, Option.some.injEq, reduceCtorEq] at known <;> subst known
  case invoke call into =>
    apply GatedUse.served (g := .cursor) (invoke_gated rfl call.name call.args call.kwargs) mine
    exact fun limits w o h => (c.belongs_invoke _ _ _ limits w o h).ofOutcome into
  case look =>
    exact Action.Gated.steady (Action.gated_done fun _ => .none _) (Handle.belongsTo rfl)
  case describe =>
    exact Action.Gated.steady (Action.gated_done fun _ => .none _) (Handle.belongsTo rfl)
  case batchSize size =>
    exact Action.Gated.steady (Action.gated_done fun _ => .none _) (Handle.belongsTo rfl)
  case advance => exact GatedUse.served (advance_gated rfl) mine fun _ _ _ _ => .none _
  case tryNext => exact GatedUse.served (tryNext_gated rfl) mine fun _ _ _ _ => .none _
  case close => exact GatedUse.served (close_gated rfl) mine fun _ _ _ _ => .none _
  case collect =>
    refine GatedUse.consumed (collect_gated rfl) (fun _ _ => complaint?_map) ?_
    rintro (_ | ds) r h
    · cases h
    · cases h
      rfl
  case stream =>
    exact GatedUse.consumed (stream_gated rfl) (fun _ _ => complaint?_toDocuments)
      fun _ _ => handle?_toDocuments
  case take count =>
    exact GatedUse.consumed (take_gated count rfl) (fun _ _ => complaint?_toItems)
      fun _ _ => handle?_toItems

end Cursor

namespace ChangeStream

variable {k : Connection} {s : ChangeStream}

/-! ## Calls of change streams by name -/

/-- An event as the outcome of a call. -/
def eventOutcome (d : Option Document) : Outcome := .value (Outcome.ofDocument? d)

/-- An operation of a change stream is gated by the client. -/
theorem answer_gated (own : s.connection = k) (name : String) :
    GatedUse k.client failure? (fun s => s.connection = k) (s.answer name) := by
  by_cases alive : name = "alive"
  · refine IsOver.gated ⟨.ok (.value (.boolean s.isAlive)), s, own, fun limits w => ?_⟩
    unfold answer
    exact if_pos alive
  by_cases token : name = "resume_token"
  · refine IsOver.gated ⟨.ok (.value (Outcome.ofDocument? s.resumeToken)), s, own,
      fun limits w => ?_⟩
    unfold answer
    dsimp only
    rw [if_neg alive]
    exact if_pos token
  by_cases try_ : name = "try_next"
  · have same : s.answer name = fun limits w => ((s.tryNext limits w).1.map eventOutcome,
        (s.tryNext limits w).2.1, (s.tryNext limits w).2.2) := by
      funext limits w
      unfold answer
      dsimp only
      rw [if_neg alive, if_neg token, if_pos try_]
      rcases s.tryNext limits w with ⟨_ | d, s', w'⟩ <;> rfl
    rw [same]
    exact (tryNext_gated own).reword _
  by_cases next : name = "next"
  · have same : s.answer name = fun limits w => ((s.nextEvent limits w).1.map eventOutcome,
        (s.nextEvent limits w).2.1, (s.nextEvent limits w).2.2) := by
      funext limits w
      unfold answer
      dsimp only
      rw [if_neg alive, if_neg token, if_neg try_, if_pos next]
      rcases s.nextEvent limits w with ⟨_ | d, s', w'⟩ <;> rfl
    rw [same]
    exact (nextEvent_gated own).reword _
  by_cases close : name = "close"
  · have same : s.answer name = fun limits w =>
        ((s.close limits w).1.map fun _ => Outcome.value .null, (s.close limits w).2.1,
          (s.close limits w).2.2) := by
      funext limits w
      unfold answer
      dsimp only
      rw [if_neg alive, if_neg token, if_neg try_, if_neg next, if_pos close]
      rcases s.close limits w with ⟨_ | _, s', w'⟩ <;> rfl
    rw [same]
    exact (close_gated own).reword _
  · refine IsOver.gated ⟨.error (.failed (surface.unknownOperation name)), s, own,
      fun limits w => ?_⟩
    unfold answer
    dsimp only
    rw [if_neg alive, if_neg token, if_neg try_, if_neg next]
    exact if_neg close

/-- A call of a change stream by name is gated by the client. -/
theorem invoke_gated (own : s.connection = k) (name : String) (args : List Value)
    (kwargs : Document) :
    GatedUse k.client failure? (fun s => s.connection = k) (s.invoke name args kwargs) := by
  rcases served : s.gateway.resolve name args kwargs with e | _ | _
  · refine IsOver.gated ⟨.error (.failed e), s, own, fun limits w => ?_⟩
    unfold invoke
    rw [served]
  · exact absurd served (s.resolve_ne_remote name args kwargs)
  · have same : s.invoke name args kwargs = s.answer name := by
      funext limits w
      unfold invoke
      rw [served]
    rw [same]
    exact answer_gated own name

/-- A change stream answers with values. -/
theorem value_of_answer {name : String} {limits : Limits} {w : World} {o : Outcome}
    (h : (s.answer name limits w).1 = .ok o) : ∃ v, o = .value v := by
  unfold answer at h
  dsimp only at h
  split at h
  · cases h
    exact ⟨_, rfl⟩
  split at h
  · cases h
    exact ⟨_, rfl⟩
  split at h
  · generalize s.tryNext limits w = r at h
    obtain ⟨_ | d, s', w'⟩ := r <;> cases h
    exact ⟨_, rfl⟩
  split at h
  · generalize s.nextEvent limits w = r at h
    obtain ⟨_ | d, s', w'⟩ := r <;> cases h
    exact ⟨_, rfl⟩
  split at h
  · generalize s.close limits w = r at h
    obtain ⟨_ | _, s', w'⟩ := r <;> cases h
    exact ⟨_, rfl⟩
  · cases h

/-- The outcome of a call of a change stream by name belongs to the client of the stream. -/
theorem belongs_invoke (s : ChangeStream) (name : String) (args : List Value) (kwargs : Document)
    (limits : Limits) (w : World) :
    Yields (fun o => Belongs s.connection.client o.handle?)
      (s.invoke name args kwargs limits w).1 := by
  intro o h
  unfold invoke at h
  split at h
  · cases h
  · next served => exact absurd served (s.resolve_ne_remote name args kwargs)
  · obtain ⟨v, rfl⟩ := value_of_answer h
    exact .none _

/-! ## Commands to change streams -/

/-- Whatever is asked of a change stream is gated. -/
theorem own_gated {command : Command} {service : Service} (known : s.own? command = some service) :
    GatedService s.connection.client command service := by
  have mine (s' : ChangeStream) (own : s'.connection = s.connection) :
      (Handle.changeStream s').client? = some s.connection.client := client_eq own
  cases command <;> simp only [own?, Option.some.injEq, reduceCtorEq] at known <;> subst known
  case invoke call into =>
    refine GatedUse.served (g := .changeStream) (invoke_gated rfl call.name call.args call.kwargs)
      mine ?_
    exact fun limits w o h => (s.belongs_invoke _ _ _ limits w o h).ofOutcome into
  case look =>
    exact Action.Gated.steady (Action.gated_done fun _ => .none _) (Handle.belongsTo rfl)
  case describe =>
    exact Action.Gated.steady (Action.gated_done fun _ => .none _) (Handle.belongsTo rfl)
  case setTimeout timeout =>
    exact Action.Gated.steady (Action.gated_done fun _ => .none _) (Handle.belongsTo rfl)
  case closeSignal =>
    refine Action.Gated.steady (t := Action.look fun w => .signal s.serial (w.hasFired s.serial))
      (Action.gated_look (fun _ _ => rfl) fun _ _ => .some ?_) (Handle.belongsTo rfl)
    rintro _ ⟨⟩
  case tryNext => exact GatedUse.served (tryNext_gated rfl) mine fun _ _ _ _ => .none _
  case nextEvent => exact GatedUse.served (nextEvent_gated rfl) mine fun _ _ _ _ => .none _
  case close => exact GatedUse.served (close_gated rfl) mine fun _ _ _ _ => .none _
  case stream =>
    exact GatedUse.consumed (stream_gated rfl) (fun _ _ => complaint?_toDocuments)
      fun _ _ => handle?_toDocuments
  case take count =>
    exact GatedUse.consumed (take_gated count rfl) (fun _ _ => complaint?_toItems)
      fun _ _ => handle?_toItems

end ChangeStream

/-! ## All handles -/

namespace Handle

/-- The command is about the closing of the client that the handle is one of. -/
def IsAboutItsClosing (h : Handle) (command : Command) : Prop :=
  (∃ c, h = client c) ∧ command.ConcernsClosing

/-- A close signal can be fired, and asked for, on behalf of any client. -/
theorem signalled_gated {subscription : Nat} {command : Command} {t : Action Result}
    (known : signalled subscription command = some t) (client : Nat) :
    t.Gated client fun r => Belongs client r.handle? := by
  cases command <;> simp only [signalled, Option.some.injEq, reduceCtorEq] at known <;> subst known
  case close => exact Action.gated_bind (Action.gated_fire _) fun _ _ => Action.gated_pure (.none _)
  case isClosed =>
    have fired : (Action.look (·.hasFired subscription)).Gated client fun _ => True :=
      Action.gated_look (fun _ _ => rfl) fun _ => trivial
    exact Action.gated_plain fired fun _ => rfl

/-- The gateway of a handle has the connection of its client. -/
theorem client_of_gateway? {h : Handle} {g : Gateway} (known : h.gateway? = some g) :
    h.client? = some g.connection.client := by
  cases h <;> cases known <;> rfl

/-- Whatever only some handles know is gated by the client that the handle belongs to. -/
theorem own_gated {h : Handle} {command : Command} {service : Service} {client : Nat}
    (known : h.own? command = some service) (belongs : h.BelongsTo client)
    (other : ¬ h.IsAboutItsClosing command) : GatedService client command service := by
  cases h with
  | client c =>
    obtain ⟨t, ht, rfl⟩ := Option.map_eq_some_iff.mp known
    cases belongs _ rfl
    exact (c.own_gated ht fun about => other ⟨⟨c, rfl⟩, about⟩).steady belongs
  | database d =>
    obtain ⟨t, ht, rfl⟩ := Option.map_eq_some_iff.mp known
    cases belongs _ rfl
    exact ((d.own_gated ht).mono fun _ brings _ => brings).steady belongs
  | collection c =>
    obtain ⟨t, ht, rfl⟩ := Option.map_eq_some_iff.mp known
    cases belongs _ rfl
    exact ((c.own_gated ht).mono fun _ brings _ => brings).steady belongs
  | cursor c =>
    cases belongs _ rfl
    exact c.own_gated known
  | changeStream s =>
    cases belongs _ rfl
    exact s.own_gated known
  | closeSignal subscription =>
    obtain ⟨t, ht, rfl⟩ := Option.map_eq_some_iff.mp known
    exact ((signalled_gated ht client).mono fun _ brings _ => brings).steady belongs

/-- Whatever is asked of a handle is gated by the client that it belongs to. -/
theorem service_gated {h : Handle} {command : Command} {service : Service} {client : Nat}
    (known : h.service? command = some service) (belongs : h.BelongsTo client)
    (other : ¬ h.IsAboutItsClosing command) : GatedService client command service := by
  unfold service? at known
  split at known
  · next t common =>
    cases known
    obtain ⟨g, hg, ht⟩ := Option.bind_eq_some_iff.mp common
    cases belongs _ (client_of_gateway? hg)
    exact ((g.common_gated ht).mono fun _ brings _ => brings).steady belongs
  · exact own_gated known belongs other

end Handle

/-! ## Closing a client -/

namespace Client

variable {c : Client}

/-- What a command about the closing of a client may come to, whatever the world is like. -/
inductive SettlesClosing (c : Client) (service : Service) : Prop
  /-- The call does not fit, and nothing happens. -/
  | unfit (e : Error) (same : service = fun _ w => (.error (.failed e), some (.client c), w))
  /-- The client is closed. -/
  | closes (r : Result) (plain : r.handle? = none)
      (same : service = fun _ w => (.ok r, some (.client c), w.close c.connection.client))
  /-- It is told whether the client is closed. -/
  | asks (same : service = fun _ w =>
      (.ok (.truth (w.isClosed c.connection.client)), some (.client c), w))

/-- Closing a client succeeds and closes it, whatever the world is like. -/
theorem service_close (c : Client) : (Handle.client c).service? .close
    = some fun _ w => (.ok .done, some (.client c), w.close c.connection.client) := rfl

/-- A client tells whether it is closed, and stays as it is. -/
theorem service_isClosed (c : Client) : (Handle.client c).service? .isClosed
    = some fun _ w => (.ok (.truth (w.isClosed c.connection.client)), some (.client c), w) := rfl

/-- A client answers a call of an overridden operation itself, unless the call does not fit. -/
theorem invoke_of_overridden (c : Client) {name : String} (own : surface.isOverridden name = true)
    (args : List Value) (kwargs : Document) :
    (∃ e, c.invoke name args kwargs = Action.fail e)
      ∨ c.invoke name args kwargs = c.answer name args kwargs := by
  have notRemote : c.gateway.resolve name args kwargs ≠ .ok .remote :=
    Gateway.resolve_ne_remote_of_overridden own args kwargs
  unfold invoke Gateway.invoke
  rcases served : c.gateway.resolve name args kwargs with e | _ | _
  · exact .inl ⟨e, rfl⟩
  · exact absurd served notRemote
  · exact .inr rfl

/-- The call by name closes a client as well. -/
theorem answer_close (c : Client) (args : List Value) (kwargs : Document) :
    c.answer "close" args kwargs
      = fun _ w => (.ok (.value .null), w.close c.connection.client) := by
  unfold answer
  rw [if_neg (by decide), if_neg (by decide), if_neg (by decide), if_pos rfl]
  rfl

/-- A client is closed by a call to close it, unless the call does not fit. -/
theorem invoke_close (c : Client) (args : List Value) (kwargs : Document) :
    (∃ e, c.invoke "close" args kwargs = Action.fail e)
      ∨ c.invoke "close" args kwargs
        = fun _ w => (.ok (.value .null), w.close c.connection.client) := by
  have own : surface.isOverridden "close" = true :=
    Surface.isOverridden_of_mem (show "close" ∈ localOperations by decide)
  rw [← c.answer_close args kwargs]
  exact c.invoke_of_overridden own args kwargs

/-- An outcome that is a value is no handle, whatever kind was asked for. -/
theorem handle?_ofOutcome_value (v : Value) (into : Option Outcome.Kind) :
    (Result.ofOutcome (.value v) into).handle? = none := by
  cases into with
  | none => rfl
  | some kind => cases kind <;> rfl

/-- The same of the command that makes the call. -/
theorem service_invoke_close (c : Client) {call : Call} (named : call.name = "close")
    (into : Option Outcome.Kind) : ∃ service,
    (Handle.client c).service? (.invoke call into) = some service
      ∧ ((∃ e, service = fun _ w => (.error (.failed e), some (.client c), w))
        ∨ service = fun _ w => (.ok (.ofOutcome (.value .null) into), some (.client c),
            w.close c.connection.client)) := by
  refine ⟨(Handle.client c).steady (do
    return .ofOutcome (← c.invoke call.name call.args call.kwargs) into), rfl, ?_⟩
  rw [named]
  rcases c.invoke_close call.args call.kwargs with ⟨e, unfit⟩ | closes
  · rw [unfit]
    exact .inl ⟨e, rfl⟩
  · rw [closes]
    exact .inr rfl

/-- A client knows the commands about its closing, and there is nothing else that they may come
to. -/
theorem settlesClosing (c : Client) {command : Command} (about : command.ConcernsClosing) :
    ∃ service, (Handle.client c).service? command = some service ∧ c.SettlesClosing service := by
  cases command with
  | close => exact ⟨_, c.service_close, .closes .done rfl rfl⟩
  | isClosed => exact ⟨_, c.service_isClosed, .asks rfl⟩
  | invoke call into =>
    obtain ⟨service, known, ⟨e, unfit⟩ | closes⟩ := c.service_invoke_close about into
    · exact ⟨service, known, .unfit e unfit⟩
    · exact ⟨service, known, .closes _ (handle?_ofOutcome_value .null into) closes⟩
  | _ => exact absurd about id

end Client

/-! ## Making other clients -/

/-- A client that a setup makes has this number, the endpoint of the setup and some options. -/
theorem Setup.exists_of_client {setup : Setup} {serial : Nat} {c : Client}
    (made : setup.client serial = .ok c) :
    ∃ url options, Endpoint.urlOfText setup.uri = .ok url
      ∧ c = ⟨⟨serial, ⟨url, setup.accessKey⟩, options.codec, options.changeStreamTimeout⟩,
        options⟩ := by
  have parts {options : Options} (h : Client.ofOptions serial setup.uri setup.accessKey options
      = .ok c) : ∃ url options, Endpoint.urlOfText setup.uri = .ok url
        ∧ c = ⟨⟨serial, ⟨url, setup.accessKey⟩, options.codec, options.changeStreamTimeout⟩,
          options⟩ := by
    unfold Client.ofOptions at h
    split at h
    · cases h
    · next url parses =>
      cases h
      exact ⟨url, options, parses, rfl⟩
  unfold Setup.client at made
  split at made
  · exact parts made
  · split at made
    · exact parts made
    · cases made

/-- A client that a setup makes has the number that it is made with. -/
theorem Setup.number_of_client {setup : Setup} {serial : Nat} {c : Client}
    (made : setup.client serial = .ok c) : c.connection.client = serial := by
  obtain ⟨url, options, _, rfl⟩ := exists_of_client made
  rfl

/-- Only a client makes another one, and it gets a new number. -/
theorem Handle.service_newClient {h : Handle} {setup : Setup} {service : Service}
    (known : h.service? (.newClient setup) = some service) (limits : Limits) (w : World) :
    (service limits w).2.2 = w.fresh.2 ∧ ∀ r, (service limits w).1 = .ok r →
      ∃ c, r = .handle (.client c) ∧ c.connection.client = w.next := by
  cases h with
  | client c =>
    have same : service = (Handle.client c).steady (do
        let serial ← Action.fresh
        return .handle (.client (← Action.ofExcept (setup.client serial)))) :=
      (Option.some.inj known).symm
    rw [same]
    show ((do return .handle (.client (← Action.ofExcept (setup.client w.next))) : Action Result)
        limits w.fresh.2).2 = w.fresh.2 ∧ ∀ r,
      ((do return .handle (.client (← Action.ofExcept (setup.client w.next))) : Action Result)
        limits w.fresh.2).1 = .ok r → _
    rcases made : setup.client w.next with e | c'
    · exact ⟨rfl, fun r h => nomatch h⟩
    · refine ⟨rfl, ?_⟩
      rintro _ ⟨rfl⟩
      exact ⟨c', rfl, Setup.number_of_client made⟩
  | _ => cases known

end RemoteDriver
