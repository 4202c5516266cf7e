import RemoteDriver.Proofs.Closing.Runs
import RemoteDriver.Proofs.Refusal.Stateful

/-!
# Refusals in sessions

A step that is refused tells the error of the reason, posts nothing and takes no time, and the
session after it is the one before it: the world with its cache of databases, its closed clients,
its log and its close signals, and what every name stands for (`step_of_refuses`).  So what has been
refused is refused again, and whatever else was refused before is still refused then: by induction,
any run of such steps tells its errors one after the other and leaves the session as it was
(`run_of_refuses`).

What a session refuses is what its handles refuse, and `refusals_are_atomic` says of them that this
is all that ends with an error without being given to the connection.
-/

namespace RemoteDriver

namespace Session

/-- A step is refused by the handle that it is given to, and this is the error.  No close signal
fires meanwhile. -/
def Refuses (s : Session) (st : Step) (err : Error) : Prop :=
  ∃ h, s.handle? st.target = some h ∧ h.Refuses s.world st.command err
    ∧ st.closing h s.world.now = none

/-- A session is as it was: its world is the same, and every name stands for what it stood for. -/
structure Unchanged (s s' : Session) : Prop where
  /-- The cache of databases, the closed clients, the log, the close signals and the time. -/
  world : s'.world = s.world
  /-- The handles, with the state of cursors and change streams. -/
  handles : ∀ name, s'.handle? name = s.handle? name

/-- What a refused step tells: the error, no requests and no time. -/
def refusal (err : Error) : Report := ⟨.failed err, [], 0⟩

variable {s s' s'' : Session} {st : Step} {err : Error}

/-- A session is unchanged as long as nothing is done. -/
theorem Unchanged.refl (s : Session) : Unchanged s s := ⟨rfl, fun _ => rfl⟩

/-- What is unchanged twice is unchanged over both stretches. -/
theorem Unchanged.trans (first : Unchanged s s') (second : Unchanged s' s'') : Unchanged s s'' :=
  ⟨second.world.trans first.world, fun name => (second.handles name).trans (first.handles name)⟩

/-- What is refused in a session is refused in one that is as it was. -/
theorem Refuses.of_unchanged (refuses : s.Refuses st err) (unchanged : Unchanged s s') :
    s'.Refuses st err := by
  obtain ⟨h, known, refused, still⟩ := refuses
  refine ⟨h, (unchanged.handles _).trans known, ?_, ?_⟩
  · rw [unchanged.world]
    exact refused
  · rw [unchanged.world]
    exact still

/-- A step that is refused tells the error, and the session is as it was. -/
theorem step_of_refuses (sound : Sound s) (refuses : s.Refuses st err) :
    (s.step st).1 = refusal err ∧ Unchanged s (s.step st).2 := by
  obtain ⟨h, known, refused, still⟩ := refuses
  obtain ⟨service, offered, rejects⟩ := refused.rejects
  have served : s.serve st h = (.failed err, some h, s.world) := by
    rw [serve_of_service offered, rejects]
    unfold conclude
    rw [joined_of_none still]
    rfl
  obtain ⟨_, world, handles⟩ := step_of_still sound.indexed known rfl served
  refine ⟨?_, world, handles⟩
  rw [step_of_handle known, served]
  dsimp only
  rw [List.drop_length, Nat.sub_self]
  rfl

/-- Steps that are all refused tell their errors one after the other, and the session is as it
was. -/
theorem run_of_refuses (sound : Sound s) {refusals : List (Step × Error)}
    (refuses : ∀ st err, (st, err) ∈ refusals → s.Refuses st err) :
    (s.run (refusals.map (·.1))).1 = refusals.map (refusal ·.2)
      ∧ Unchanged s (s.run (refusals.map (·.1))).2 := by
  induction refusals generalizing s with
  | nil => exact ⟨rfl, .refl s⟩
  | cons first rest ih =>
    obtain ⟨st, err⟩ := first
    obtain ⟨told, unchanged⟩ := step_of_refuses sound (refuses st err List.mem_cons_self)
    -- the rest is refused in the session that the first step leaves, which is the same
    obtain ⟨others, later⟩ := ih (sound.step st) fun st' err' member =>
      (refuses st' err' (List.mem_cons_of_mem _ member)).of_unchanged unchanged
    rw [List.map_cons, run_cons, List.map_cons, told, others]
    exact ⟨rfl, unchanged.trans later⟩

/-- Refusals are atomic.  Take a handle of a session at any time.  Whatever it refuses ends with the
error that goes with the reason, under all limits, and the handle and the world are exactly as they
were.  The reasons are all that there are: a command that ends with an error without a request has
been refused, or it was given to the connection, which does not take it because the client has been
closed or a value has no form on the wire.  And steps that are refused, the same one again or
different ones, tell their errors and leave the session as it was. -/
theorem refusals_are_atomic {remote : Remote} {name : String} {setup : Setup}
    (started : Session.start remote name setup = .ok s) (before : List Step) :
    let now := (s.run before).2
    (∀ name h, now.handle? name = some h →
      (∀ command err, h.Refuses now.world command err → h.Rejects now.world command err)
      ∧ ∀ command service limits err, ¬ command.BringsClient →
        h.service? command = some service →
        complaint? (service limits now.world).1 = some err →
        (service limits now.world).2.2.posted = now.world.posted →
          h.Refuses now.world command err
            ∨ ∃ g, h.gateway? = some g ∧ h.Balks g now.world command err)
    ∧ ∀ refusals : List (Step × Error),
      (∀ st err, (st, err) ∈ refusals → now.Refuses st err) →
        (now.run (refusals.map (·.1))).1 = refusals.map (refusal ·.2)
          ∧ Unchanged now (now.run (refusals.map (·.1))).2 := by
  intro now
  have sound : Sound now := (sound_start started).run before
  refine ⟨fun _ h _ => ⟨fun _ _ refuses => refuses.rejects, ?_⟩, ?_⟩
  · intro command service limits err alone known told silent
    exact Handle.refuses_or_balks alone known told silent
  · intro refusals refuses
    exact run_of_refuses sound refuses

/-- A client that is asked for a database without a name, for a private operation, and twice for a
session. -/
theorem single_client_refusals_are_atomic :
    let nameless : Step := ⟨"client", .getDatabase (some ""), some "shop", none, none⟩
    let hidden : Step := ⟨"client", .invoke ⟨"_secret", [.null], []⟩ none, none, none, none⟩
    let session : Step := ⟨"client", .startSession, none, some 5, some 7⟩
    ∃ s, Session.start (.ofScript []) "client" ⟨"http://h/", [], some .standard⟩ = .ok s
      ∧ (∃ errs : List Error, errs.map (·.operation?)
          = ["get_database", "_secret", "start_session", "start_session"].map some
        ∧ (s.run [nameless, hidden, session, session]).1 = errs.map refusal)
      ∧ Unchanged s (s.run [nameless, hidden, session, session]).2 := by
  intro nameless hidden session
  have starts : (Session.start (.ofScript []) "client" ⟨"http://h/", [], some .standard⟩).isOk
      = true := by decide +kernel
  rcases started : Session.start (.ofScript []) "client" ⟨"http://h/", [], some .standard⟩
    with e | s
  · rw [started] at starts
    cases starts
  · obtain ⟨c, _, same⟩ := exists_client_of_start started
    have known : s.handle? "client" = some (.client c) := by
      rw [same]
      rfl
    have refuses (st : Step) {err : Error} (here : st.target = "client")
        (refused : (Handle.client c).Refuses s.world st.command err) : s.Refuses st err :=
      ⟨.client c, here ▸ known, refused, rfl⟩
    have first := refuses nameless rfl (.client (.nameless (.getDatabase (some "")) (.inr rfl)))
    have second := refuses hidden rfl (.invoke rfl (.hidden (by decide)) none)
    have third := refuses session rfl (.client (.session (.inl rfl)))
    obtain ⟨told, unchanged⟩ := (refusals_are_atomic started []).2
      [(nameless, _), (hidden, _), (session, _), (session, _)] (by
        intro st err member
        simp only [List.mem_cons, Prod.mk.injEq, List.not_mem_nil, or_false] at member
        rcases member with ⟨rfl, rfl⟩ | ⟨rfl, rfl⟩ | ⟨rfl, rfl⟩ | ⟨rfl, rfl⟩
        · exact first
        · exact second
        · exact third
        · exact third)
    exact ⟨s, rfl, ⟨[_, _, _, _], rfl, told⟩, unchanged⟩

end Session

end RemoteDriver
