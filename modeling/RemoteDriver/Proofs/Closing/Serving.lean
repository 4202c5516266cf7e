import RemoteDriver.Proofs.Closing.Services
import RemoteDriver.Session.Step

/-!
# Serving commands on closed clients

A session serves a command by the service of a handle, and then may have to wait for a close signal
that fires meanwhile.  So what is known of services carries over: a command to a handle of other
clients is served as if a client had not been closed (`serve_reopened`), and what it brings belongs
to those others (`serve_belongs`), unless it is a new client (`serve_newClient`).
-/

namespace RemoteDriver

/-- The error that a verdict tells. -/
def Verdict.complaint? : Verdict → Option Error
  | failed e => some e
  | result (.items _ failure) => failure
  | _ => none

/-- A verdict complains of what its result tells. -/
theorem complaint?_ofExcept (r : Except Halt Result) :
    (Verdict.ofExcept r).complaint? = complaint? r := by
  rcases r with (_ | _) | r
  · rfl
  · rfl
  · cases r <;> rfl

/-! ## Waiting for a close signal -/

/-- A close signal that fires during a step fires before its caller stops waiting. -/
def Limits.InTime (limits : Limits) : Prop :=
  ∀ subscription time, limits.closing = some (subscription, time) → time ≤ limits.deadline

namespace Session

section joined

variable {limits : Limits} {w : World} {r : Except Halt Result}

/-- A step whose close signal fires in time has the result of its command. -/
theorem joined_of_inTime (inTime : limits.InTime) : (joined limits w r).1 = r := by
  unfold joined
  split
  · rfl
  · split
    · next subscription time closing =>
      rw [if_pos (inTime subscription time closing)]
    · rfl

/-- A step that still waits for a close signal when its caller stops waiting has no result. -/
theorem joined_of_not_inTime (late : ¬ limits.InTime) :
    (joined limits w r).1 = .error .abandoned := by
  unfold joined
  split
  · rfl
  · split
    · next subscription time closing =>
      rw [if_neg]
      intro inTime
      apply late
      intro subscription' time' closing'
      rw [closing] at closing'
      cases closing'
      exact inTime
    · next closing =>
      refine absurd ?_ late
      intro subscription time closing'
      rw [closing] at closing'
      cases closing'

/-- While a step waits for a close signal, this signal may fire, and time may pass. -/
theorem joined_cases (limits : Limits) (w : World) (r : Except Halt Result) :
    (joined limits w r).2 = w ∨ ∃ subscription time, limits.closing = some (subscription, time)
      ∧ ((joined limits w r).2 = w.fire subscription
        ∨ (joined limits w r).2 = { w.fire subscription with now := max w.now time }
        ∨ (joined limits w r).2 = { w with now := max w.now limits.deadline }) := by
  unfold joined
  split
  · dsimp only
    split
    · next subscription time closing =>
      split
      · exact .inr ⟨subscription, time, closing, .inl rfl⟩
      · exact .inl rfl
    · exact .inl rfl
  · split
    · next subscription time closing =>
      split
      · exact .inr ⟨subscription, time, closing, .inr (.inl rfl)⟩
      · exact .inr ⟨subscription, time, closing, .inr (.inr rfl)⟩
    · exact .inl rfl

/-- Waiting for a close signal leaves the log, the closed clients and the numbers as they are. -/
theorem joined_apart (limits : Limits) (w : World) (r : Except Halt Result) :
    (joined limits w r).2.posted = w.posted
    ∧ (joined limits w r).2.closed = w.closed ∧ (joined limits w r).2.next = w.next := by
  rcases joined_cases limits w r with same | ⟨subscription, time, _, same | same | same⟩ <;>
    rw [same]
  · exact ⟨rfl, rfl, rfl⟩
  · exact w.fire_apart subscription
  · exact w.fire_apart subscription
  · exact ⟨rfl, rfl, rfl⟩

/-- It does not matter for it who has been closed. -/
theorem joined_reopened (n : Nat) : joined limits (w.reopened n) r
    = ((joined limits w r).1, (joined limits w r).2.reopened n) := by
  unfold joined
  split
  · dsimp only
    split
    · split
      · rw [w.fire_reopened]
      · rfl
    · rfl
  · split
    · split
      · rw [w.fire_reopened]
        rfl
      · rfl
    · rfl

/-- Without a close signal there is nothing to wait for. -/
theorem joined_of_none (none : limits.closing = .none) : joined limits w r = (r, w) := by
  unfold joined
  rw [none]
  rcases r with (_ | _) | _ <;> rfl

end joined

/-! ## Serving commands -/

/-- The limits of a step that begins in this world. -/
def limits (step : Step) (h : Handle) (w : World) : Limits :=
  ⟨step.deadline w.now, step.closing h w.now⟩

/-- What a step comes to once the service of its command is known. -/
def conclude (limits : Limits) (out : Except Halt Result × Option Handle × World) :
    Verdict × Option Handle × World :=
  (.ofExcept (joined limits out.2.2 out.1).1, out.2.1, (joined limits out.2.2 out.1).2)

/-- How a command is served, whatever the world is like. -/
inductive Serving (s : Session) (step : Step) (h : Handle) : Prop
  /-- The world is not looked at. -/
  | apart (v : Verdict) (became : Option Handle) (plain : v.handle? = none)
      (keeps : became = some h ∨ became = none)
      (same : ∀ w, serve { s with world := w } step h = (v, became, w))
  /-- The handle serves it. -/
  | service (service : Service) (known : h.service? step.command = some service)
      (same : ∀ w, serve { s with world := w } step h
        = conclude (limits step h w) (service (limits step h w) w))

/-- A command that a handle knows is served by the handle. -/
theorem serve_of_service {s : Session} {step : Step} {h : Handle} {service : Service}
    (known : h.service? step.command = some service) : s.serve step h
      = conclude (limits step h s.world) (service (limits step h s.world) s.world) := by
  unfold serve
  split
  · next forget =>
    rw [forget] at known
    cases h <;> cases known
  · next other compare =>
    rw [compare] at known
    cases h <;> cases known
  · rw [known]
    rfl

/-- Every step serves its handle in the way that is told. -/
theorem serving (s : Session) (step : Step) (h : Handle) : Serving s step h := by
  rcases known : h.service? step.command with _ | service
  · by_cases forget : step.command = .forget
    · refine .apart (.result .done) none rfl (.inr rfl) fun w => ?_
      unfold serve
      rw [forget]
    by_cases compare : ∃ other, step.command = .compare other
    · obtain ⟨other, compare⟩ := compare
      refine .apart (.result (.comparison ((s.handle? other).bind h.isSame?))) (some h) rfl
        (.inl rfl) fun w => ?_
      unfold serve
      rw [compare]
      rfl
    refine .apart .notOffered (some h) rfl (.inl rfl) fun w => ?_
    unfold serve
    split
    · next forget' => exact absurd forget' forget
    · next other compare' => exact absurd ⟨other, compare'⟩ compare
    · rw [known]
  · exact .service service known fun _ => serve_of_service known

variable {s : Session} {step : Step} {h : Handle} {n client : Nat}

/-- The session as it is if a client has not been closed. -/
def reopened (s : Session) (client : Nat) : Session := { s with world := s.world.reopened client }

/-- Somebody else than a client that a handle does not belong to. -/
theorem exists_belongsTo (other : h.client? ≠ some n) : ∃ m, h.BelongsTo m ∧ m ≠ n := by
  rcases known : h.client? with _ | m
  · exact ⟨n + 1, Handle.belongsTo_of_none known _, Nat.succ_ne_self n⟩
  · refine ⟨m, Handle.belongsTo known, ?_⟩
    rintro rfl
    exact other known

/-- What is concluded leaves things in order if the service does. -/
theorem moves_conclude {limits : Limits} {w : World}
    {out : Except Halt Result × Option Handle × World} (moves : Moves client w out.2.2) :
    Moves client w (conclude limits out).2.2 := by
  obtain ⟨posted, closed, next⟩ := joined_apart limits out.2.2 out.1
  exact moves.trans (.of_eq posted closed next)

/-- A step on a handle moves the world as its client allows. -/
theorem serve_moves (belongs : h.BelongsTo client) :
    Moves client s.world (s.serve step h).2.2 := by
  rcases s.serving step h with ⟨v, became, _, _, same⟩ | ⟨service, known, same⟩
  · rw [show s.serve step h = _ from same s.world]
    exact .refl client s.world
  · rw [show s.serve step h = _ from same s.world]
    apply moves_conclude
    by_cases about : h.IsAboutItsClosing step.command
    · obtain ⟨⟨c, rfl⟩, about⟩ := about
      cases belongs _ rfl
      obtain ⟨_, known', settles⟩ := c.settlesClosing about
      cases known.symm.trans known'
      rcases settles with ⟨e, rfl⟩ | ⟨r, _, rfl⟩ | rfl
      · exact .refl _ s.world
      · exact .close _ s.world
      · exact .refl _ s.world
    · exact (Handle.service_gated known belongs about).moves _ s.world

/-- A command to a handle of other clients is served as if a client had not been closed. -/
theorem serve_reopened (other : h.client? ≠ some n) : (s.reopened n).serve step h
    = ((s.serve step h).1, (s.serve step h).2.1, (s.serve step h).2.2.reopened n) := by
  obtain ⟨m, belongs, ne⟩ := exists_belongsTo other
  rcases s.serving step h with ⟨v, became, _, _, same⟩ | ⟨service, known, same⟩
  · rw [show s.serve step h = _ from same s.world]
    exact same (s.world.reopened n)
  · rw [show s.serve step h = _ from same s.world]
    refine (same (s.world.reopened n)).trans ?_
    have now : limits step h (s.world.reopened n) = limits step h s.world := rfl
    rw [now]
    have alike : service (limits step h s.world) (s.world.reopened n)
        = ((service (limits step h s.world) s.world).1,
          (service (limits step h s.world) s.world).2.1,
          (service (limits step h s.world) s.world).2.2.reopened n) := by
      by_cases about : h.IsAboutItsClosing step.command
      · obtain ⟨⟨c, rfl⟩, about⟩ := about
        have mine : c.connection.client ≠ n := by
          rw [belongs _ rfl]
          exact ne
        obtain ⟨_, known', settles⟩ := c.settlesClosing about
        cases known.symm.trans known'
        rcases settles with ⟨e, rfl⟩ | ⟨r, _, rfl⟩ | rfl
        · rfl
        · dsimp only
          rw [World.close_reopened _ mine]
        · dsimp only
          rw [World.isClosed_reopened_of_ne _ mine]
      · have gated := Handle.service_gated known belongs about
        have eq := (gated.compares n (limits step h s.world) s.world
          fun same => absurd same ne).eq_of_not ne
        have first := congrArg (fun p => p.1.1) eq
        have second := congrArg (fun p => p.1.2) eq
        have third := congrArg (fun p => p.2) eq
        exact Prod.ext first (Prod.ext second third)
    rw [alike]
    unfold conclude
    dsimp only
    rw [joined_reopened]

/-- A handle that is brought after all stands in the result of the service. -/
theorem exists_of_handle?_conclude {limits : Limits}
    {out : Except Halt Result × Option Handle × World} {h' : Handle}
    (brought : (conclude limits out).1.handle? = some h') :
    ∃ r, out.1 = .ok r ∧ r.handle? = some h' := by
  by_cases inTime : limits.InTime
  · have told : (conclude limits out).1 = .ofExcept out.1 := by
      unfold conclude
      rw [joined_of_inTime inTime]
    rw [told] at brought
    rcases out with ⟨(e | _) | r, became, w⟩
    · cases brought
    · cases brought
    · exact ⟨r, rfl, brought⟩
  · have told : (conclude limits out).1 = .abandoned := by
      unfold conclude
      rw [joined_of_not_inTime inTime]
      rfl
    rw [told] at brought
    cases brought

/-- What becomes of a handle belongs to its client, and so does what it brings. -/
theorem serve_belongs (belongs : h.BelongsTo client) :
    Belongs client (s.serve step h).2.1
      ∧ (¬ step.command.BringsClient → Belongs client (s.serve step h).1.handle?) := by
  rcases s.serving step h with ⟨v, became, plain, keeps, same⟩ | ⟨service, known, same⟩
  · rw [show s.serve step h = _ from same s.world]
    refine ⟨?_, fun _ => ?_⟩
    · rcases keeps with rfl | rfl
      · exact .some belongs
      · exact .none client
    · dsimp only
      rw [plain]
      exact .none client
  · rw [show s.serve step h = _ from same s.world]
    by_cases about : h.IsAboutItsClosing step.command
    · obtain ⟨⟨c, rfl⟩, about⟩ := about
      have quiet (r : Result) (plain : r.handle? = none)
          (told : (service (limits step (.client c) s.world) s.world).1 = .ok r) :
          Belongs client (conclude (limits step (.client c) s.world)
            (service (limits step (.client c) s.world) s.world)).1.handle? := by
        intro h' brought
        obtain ⟨r', told', holds⟩ := exists_of_handle?_conclude brought
        rw [told] at told'
        cases told'
        rw [plain] at holds
        cases holds
      obtain ⟨_, known', settles⟩ := c.settlesClosing about
      cases known.symm.trans known'
      rcases settles with ⟨e, rfl⟩ | ⟨r, plain, rfl⟩ | rfl
      · refine ⟨.some belongs, fun _ h' brought => ?_⟩
        obtain ⟨r, told, _⟩ := exists_of_handle?_conclude brought
        cases told
      · exact ⟨.some belongs, fun _ => quiet r plain rfl⟩
      · exact ⟨.some belongs, fun _ => quiet _ rfl rfl⟩
    · have yields :=
        (Handle.service_gated known belongs about).yields (limits step h s.world) s.world
      refine ⟨yields.2, fun plain h' brought => ?_⟩
      obtain ⟨r, told, holds⟩ := exists_of_handle?_conclude brought
      exact yields.1 r told plain h' holds

/-- A client that is made gets a new number. -/
theorem serve_newClient (brings : step.command.BringsClient) {h' : Handle}
    (brought : (s.serve step h).1.handle? = some h') :
    (s.serve step h).2.2.next = s.world.next + 1
      ∧ (s.serve step h).2.2.closed = s.world.closed
      ∧ ∃ c, h' = .client c ∧ c.connection.client = s.world.next := by
  rcases s.serving step h with ⟨v, became, plain, keeps, same⟩ | ⟨service, known, same⟩
  · rw [show s.serve step h = _ from same s.world] at brought
    rw [plain] at brought
    cases brought
  · rw [show s.serve step h = _ from same s.world] at brought ⊢
    obtain ⟨r, told, holds⟩ := exists_of_handle?_conclude brought
    have made : (service (limits step h s.world) s.world).2.2 = s.world.fresh.2 ∧ ∀ r,
        (service (limits step h s.world) s.world).1 = .ok r →
          ∃ c, r = .handle (.client c) ∧ c.connection.client = s.world.next := by
      revert known brings
      cases step.command with
      | newClient setup =>
        intro _ known
        exact Handle.service_newClient known _ s.world
      | _ =>
        intro brings
        exact absurd brings id
    obtain ⟨c, rfl, number⟩ := made.2 r told
    cases holds
    obtain ⟨_, closed, next⟩ := joined_apart (limits step h s.world)
      (service (limits step h s.world) s.world).2.2 (service (limits step h s.world) s.world).1
    refine ⟨?_, ?_, c, rfl, number⟩
    · apply next.trans
      rw [made.1]
      rfl
    · apply closed.trans
      rw [made.1]
      rfl

end Session

end RemoteDriver
