import RemoteDriver.Proofs.ChangeStream.Lifecycle

/-!
# Resume tokens

The token to resume with comes from the steps of a subscription: a step brings its own, or else that
of its event, or else none and the token stays (`StreamSeed.token?`).  `latestResume` reads the
token that came last off the exchanges.  A single fetch takes what it brings (`Attempted.resumes`),
waiting for an event takes what its fetches bring, and so does a whole life (`resumeToken_lived`).

The event that came with the reply that opened a stream is handed out first, before anything is
fetched (`Unread`), and it changes no token: the stream keeps what that reply had as its token, and
does not look into the event.  The main statement, `resume_token_follows_events`, tells the two
kinds of events apart.
-/

namespace RemoteDriver

open Bson (Document Value)

/-- The token to resume with that a step brings: its own, or else that of its event. -/
def StreamSeed.token? (step : StreamSeed) : Option Document :=
  step.resumeToken.or (step.event.bind ChangeStream.eventToken)

namespace ChangeStream

/-! ## The latest token -/

/-- The exchanges that asked for a step of a subscription. -/
def fetches (es : List Exchange) : List Exchange :=
  es.filter fun e => e.request.envelope.operation = "try_next"

/-- The token to resume with that fetches brought last, `first` where none has brought one. -/
def latestResume (codec : Codec) (first : Option Document) (es : List Exchange) : Option Document :=
  (es.filterMap fun e => (e.step? codec).bind (·.token?)).getLast?.or first

section reading

variable (codec : Codec) (first : Option Document) (es fs : List Exchange)

/-- The fetches of exchanges that go on come one after the other. -/
theorem fetches_append : fetches (es ++ fs) = fetches es ++ fetches fs := List.filter_append ..

variable {es} in
/-- Where nothing but steps is asked for, every exchange is a fetch. -/
theorem fetches_eq (asks : ∀ e ∈ es, e.request.envelope.operation = "try_next") :
    fetches es = es :=
  List.filter_eq_self.mpr fun e member => decide_eq_true (asks e member)

/-- The token that came last in the later exchanges is the last of all. -/
theorem latestResume_append :
    latestResume codec first (es ++ fs) = latestResume codec (latestResume codec first es) fs := by
  simp [latestResume, List.getLast?_append, Option.or_assoc]

/-- An exchange brings its token, or leaves the one before it. -/
theorem latestResume_singleton (e : Exchange) :
    latestResume codec first [e] = ((e.step? codec).bind (·.token?)).or first := by
  cases brought : (e.step? codec).bind (·.token?) <;> simp [latestResume, brought]

variable {codec es} in
/-- Where no fetch brings a token, it stays. -/
theorem latestResume_of_none (none : ∀ e ∈ es, (e.step? codec).bind (·.token?) = .none) :
    latestResume codec first es = first := by
  have nothing : (es.filterMap fun e => (e.step? codec).bind (·.token?)) = [] :=
    List.filterMap_eq_nil_iff.mpr none
  rw [latestResume, nothing]
  rfl

end reading

/-! ## Single fetches -/

section attempted

variable {s s' : ChangeStream} {limits : Limits} {w w' : World} {es : List Exchange}
  {r : Except Halt (Option Document)}

/-- A fetch takes the token that it brings. -/
theorem Attempted.resumes (h : Attempted s limits w es r s' w') :
    s'.resumeToken = latestResume s.connection.codec s.resumeToken es := by
  cases h with
  | pending | ended | signalled | idless | refused => rfl
  | answered seed _ came =>
    rw [latestResume_singleton, Exchange.step?, came]
    rfl
  | failed _ _ came =>
    rw [latestResume_singleton, Exchange.step?, came]
    rfl
  | interrupted _ nothing | late _ nothing | abandoned _ nothing =>
    rw [latestResume_singleton, Exchange.step?, Exchange.subscription?_of_nothing nothing]
    rfl

/-- A fetch that fails or is given up leaves the token as it is. -/
theorem Attempted.resumes_of_error {halt : Halt} (h : Attempted s limits w es r s' w')
    (fails : r = .error halt) : s'.resumeToken = s.resumeToken := by
  cases h with
  | refused | failed | late | abandoned => rfl
  | pending | ended | signalled | idless | answered | interrupted => cases fails

/-- Nothing is pending after a fetch. -/
theorem Attempted.spent (h : Attempted s limits w es r s' w') : s'.pending = none := by
  cases h with
  | pending => rfl
  | ended none | signalled none | idless none | refused _ none => exact none
  | answered _ asked | failed _ asked | interrupted asked | late asked | abandoned asked =>
    exact asked.none

/-- An event that is handed out was pending, or came with the step that the fetch brought. -/
theorem Attempted.delivers {event : Document} (h : Attempted s limits w es r s' w')
    (gives : r = .ok (some event)) : (s.pending = some event ∧ es = [])
      ∨ ∃ e step, es = [e] ∧ e.step? s.connection.codec = some step ∧ step.event = some event := by
  cases h with
  | pending event' held =>
    cases gives
    exact .inl ⟨held, rfl⟩
  | answered seed _ came =>
    refine .inr ⟨_, seed, rfl, ?_, Except.ok.inj gives⟩
    rw [Exchange.step?, came]
    rfl
  | ended | signalled | idless | refused | failed | interrupted | late | abandoned => cases gives

/-- A fetch after which waiting goes on has brought no event. -/
theorem Attempted.eventless (h : Attempted s limits w es r s' w') (again : GoesOn r s')
    {e : Exchange} (member : e ∈ es) {step : StreamSeed}
    (came : e.step? s.connection.codec = some step) : step.event = none := by
  cases h with
  | pending | ended | signalled | idless | refused => cases member
  | answered seed _ brought =>
    cases List.mem_singleton.mp member
    rw [Exchange.step?, brought] at came
    cases came
    rcases again with ⟨none, _⟩ | ⟨_, fails, _⟩
    · exact Except.ok.inj none
    · cases fails
  | failed _ _ brought =>
    cases List.mem_singleton.mp member
    rw [Exchange.step?, brought] at came
    cases came
  | interrupted _ nothing | late _ nothing | abandoned _ nothing =>
    cases List.mem_singleton.mp member
    rw [Exchange.step?, Exchange.subscription?_of_nothing nothing] at came
    cases came

end attempted

/-! ## Calls one after the other -/

/-- A call takes the token that its fetches bring. -/
def Resumes (s : ChangeStream) (o : Occasion Demand) : Prop :=
  (s.entry o).after.resumeToken
    = latestResume s.connection.codec s.resumeToken (fetches (s.entry o).exchanges)

/-- What holds of each of some calls holds of all of them. -/
theorem lived_resumes {s : ChangeStream} {os : List (Occasion Demand)}
    (step : ∀ c : ChangeStream, ∀ o ∈ os, c.Resumes o) : (lived entry s os).resumeToken
      = latestResume s.connection.codec s.resumeToken (fetches (exchanged (life entry s os))) := by
  induction os generalizing s with
  | nil => rfl
  | cons o os ih =>
    have rest := ih (s := (s.entry o).after)
      fun c o member => step c o (List.mem_cons_of_mem _ member)
    rw [(s.entry_served o).same.1, step s o List.mem_cons_self] at rest
    rw [lived, life, exchanged_cons, fetches_append, latestResume_append, rest]

section row

variable {s s' : ChangeStream} {limits : Limits} {w w' : World} {os : List (Occasion Demand)}
  {r : Except Halt (Option Document)}

/-- Waiting for an event takes the token that its fetches bring. -/
theorem Row.resumes (row : Row s limits w os r s' w') : s'.resumeToken
    = latestResume s.connection.codec s.resumeToken (fetches (exchanged (life entry s os))) := by
  rw [← row.after]
  refine lived_resumes fun c o member => ?_
  obtain ⟨q, _, attempted⟩ := c.entry_attempted (row.tries o member).1
  unfold Resumes
  rw [fetches_eq fun e member => (attempted.asked member).operation]
  exact attempted.resumes

/-- Nothing is pending after waiting for an event. -/
theorem Row.spent (row : Row s limits w os r s' w') : s'.pending = none := by
  obtain ⟨_, _, _, _, attempted⟩ := row.final
  exact attempted.spent

/-- Nothing is pending after any of the fetches in a row. -/
theorem Row.spent_init (row : Row s limits w os r s' w') {init : List (Occasion Demand)}
    {o : Occasion Demand} (split : os = init ++ [o]) :
    init = [] ∨ (lived entry s init).pending = none := by
  rcases List.eq_nil_or_concat init with nil | ⟨before, last, snoc⟩
  · exact .inl nil
  · rw [List.concat_eq_append] at snoc
    subst snoc split
    obtain ⟨_, _, attempted⟩ :=
      (lived entry s before).entry_attempted (row.tries last (by simp)).1
    rw [lived_append]
    exact .inr attempted.spent

/-- An event that is waited for was pending, or came with the last fetch; the others brought
none. -/
theorem Row.delivers {event : Document} (row : Row s limits w os r s' w')
    (gives : r = .ok (some event)) :
    (s.pending = some event ∧ exchanged (life entry s os) = [])
      ∨ ∃ earlier e step, exchanged (life entry s os) = earlier ++ [e]
        ∧ (∀ e' ∈ earlier, ∀ step', e'.step? s.connection.codec = some step' → step'.event = none)
        ∧ e.step? s.connection.codec = some step ∧ step.event = some event := by
  obtain ⟨init, o, split, goesOn, attempted⟩ := row.final
  have told : exchanged (life entry s os) = exchanged (life entry s init)
      ++ ((lived entry s init).entry o).exchanges := by rw [split, exchanged_snoc]
  have codec (os : List (Occasion Demand)) :
      (lived entry s os).connection.codec = s.connection.codec := by rw [(s.same_lived os).1]
  rcases attempted.delivers gives with ⟨held, silent⟩ | ⟨e, step, one, came, carried⟩
  · rcases row.spent_init split with rfl | none
    · rw [silent] at told
      exact .inl ⟨held, told⟩
    · cases held.symm.trans none
  · rw [one] at told
    rw [codec] at came
    refine .inr ⟨_, e, step, told, fun e' member step' brought => ?_, came, carried⟩
    obtain ⟨before, o', after, split', asked⟩ := exists_of_mem_exchanged member
    have tries : o'.demand = .tryNext := (row.tries o' (by simp [split, split'])).1
    obtain ⟨q, given, attempted⟩ := (lived entry s before).entry_attempted tries
    obtain ⟨q', given', again⟩ := goesOn ((lived entry s before).entry o')
      (by rw [split', life_append]; simp [life])
    rw [← codec before] at brought
    have own : q' = q := answer_inj (d := .tryNext) (given'.symm.trans given)
    exact attempted.eventless (own ▸ again) asked brought

end row

/-- What closing sends is no fetch. -/
theorem Parting.fetches_eq_nil {s : ChangeStream} {w : World} {es : List Exchange}
    (parting : s.Parting w es) : fetches es = [] := by
  refine List.filter_eq_nil_iff.mpr fun e member => ?_
  obtain ⟨_, _, _, request⟩ := parting.asks member
  rw [request]
  exact of_decide_eq_false rfl

/-- Every call takes the token that its fetches bring. -/
theorem resumes (s : ChangeStream) (o : Occasion Demand) : s.Resumes o := by
  have served := s.entry_served o
  unfold Resumes
  generalize (s.entry o).exchanges = es, (s.entry o).result = r, (s.entry o).after = s',
    (s.entry o).left = w' at served ⊢
  cases served with
  | still | timed => rfl
  | tried _ _ _ attempt =>
    rw [fetches_eq fun e member => (attempt.asked member).operation]
    exact attempt.resumes
  | waited _ _ _ row => exact row.resumes
  | parted _ _ _ parting =>
    rw [parting.fetches_eq_nil]
    rfl

/-- The token of a stream is the one that fetches brought last, or else the one it began with. -/
theorem resumeToken_lived (s : ChangeStream) (os : List (Occasion Demand)) :
    (lived entry s os).resumeToken
      = latestResume s.connection.codec s.resumeToken (fetches (exchanged (life entry s os))) :=
  lived_resumes fun c o _ => c.resumes o

/-! ## The event that came with the opening reply -/

/-- Nothing is pending any more, or it is the event of the reply that opened the stream and the
token is still that reply's. -/
def Unread (seed : StreamSeed) (s : ChangeStream) : Prop :=
  s.pending = none ∨ (s.pending = seed.event ∧ s.resumeToken = seed.resumeToken)

/-- Whatever is asked of a stream keeps it so. -/
theorem Served.unread {seed : StreamSeed} {s s' : ChangeStream} {o : Occasion Demand}
    {es : List Exchange} {r : Except Halt Result} {w' : World} (served : Served s o es r s' w')
    (unread : Unread seed s) : Unread seed s' := by
  cases served with
  | still | timed => exact unread
  | tried _ _ _ attempt => exact .inl attempt.spent
  | waited _ _ _ row => exact .inl row.spent
  | parted => exact .inl rfl

/-- Which token a stream that held `before` holds after a call that handed out an event. -/
inductive FollowsEvent (codec : Codec) (seed : StreamSeed) (event : Document)
    (before : Option Document) : List Exchange → Option Document → Prop
  /-- The event came with the reply that opened the stream: nothing is asked for it, and the token
  stays, which is still that of the reply. -/
  | opening (own : seed.event = some event) (held : before = seed.resumeToken) :
      FollowsEvent codec seed event before [] before
  /-- The event came with the step that was fetched last: the token is that of the step, or else
  that of the event, or else what it was before that fetch. -/
  | fetched (earlier : List Exchange) (e : Exchange) (step : StreamSeed)
      (eventless : ∀ e' ∈ earlier, ∀ step', e'.step? codec = some step' → step'.event = none)
      (came : e.step? codec = some step) (carried : step.event = some event) :
      FollowsEvent codec seed event before (earlier ++ [e])
        ((step.resumeToken.or (eventToken event)).or (latestResume codec before earlier))

/-- What a call hands out was pending, or came with the last of its fetches. -/
theorem Served.delivers {s s' : ChangeStream} {o : Occasion Demand} {es : List Exchange}
    {r : Except Halt Result} {w' : World} {event : Document} (served : Served s o es r s' w')
    (asks : o.demand.Tries s ∨ o.demand.Waits s) (gives : r = .ok (o.demand.answer (some event))) :
    fetches es = es ∧ ((s.pending = some event ∧ es = [])
      ∨ ∃ earlier e step, es = earlier ++ [e]
        ∧ (∀ e' ∈ earlier, ∀ step', e'.step? s.connection.codec = some step' → step'.event = none)
        ∧ e.step? s.connection.codec = some step ∧ step.event = some event) := by
  rcases asks with tries | waits
  · obtain ⟨q, result, attempt⟩ := served.attempt tries
    have own : q = .ok (some event) := answer_inj (d := o.demand) (result.symm.trans gives)
    refine ⟨fetches_eq fun e member => (attempt.asked member).operation, ?_⟩
    rcases attempt.delivers own with pending | ⟨e, step, one, came, carried⟩
    · exact .inl pending
    · exact .inr ⟨[], e, step, one, by simp, came, carried⟩
  · obtain ⟨os, q, rfl, result, row⟩ := served.row waits
    have own : q = .ok (some event) := answer_inj (d := o.demand) (result.symm.trans gives)
    exact ⟨fetches_eq fun e member => (row.asks e member).1, row.delivers own⟩

/-- A call that hands out an event leaves the token as it has to be after it. -/
theorem follows_event {seed : StreamSeed} {s : ChangeStream} {o : Occasion Demand}
    {event : Document} (unread : Unread seed s) (asks : o.demand.Tries s ∨ o.demand.Waits s)
    (gives : (s.entry o).result = .ok (o.demand.answer (some event))) :
    FollowsEvent s.connection.codec seed event s.resumeToken (s.entry o).exchanges
      (s.entry o).after.resumeToken := by
  have taken := s.resumes o
  unfold Resumes at taken
  obtain ⟨all, ⟨pending, silent⟩ | ⟨earlier, e, step, split, eventless, came, carried⟩⟩ :=
    (s.entry_served o).delivers asks gives
  · rw [silent] at taken ⊢
    rw [taken]
    rcases unread with none | ⟨own, held⟩
    · cases pending.symm.trans none
    · exact .opening (own.symm.trans pending) held
  · have token : step.token? = step.resumeToken.or (eventToken event) := by
      rw [StreamSeed.token?, carried]
      rfl
    rw [all, split, latestResume_append, latestResume_singleton, came, Option.bind_some,
      token] at taken
    rw [taken, split]
    exact .fetched earlier e step eventless came carried

/-- The event of the opening reply leaves the token that it would itself bring exactly if that reply
had one or the event brings none. -/
theorem FollowsEvent.opening_iff {codec : Codec} {seed : StreamSeed} {event : Document}
    {before after : Option Document} {es : List Exchange}
    (follows : FollowsEvent codec seed event before es after) (silent : es = []) :
    after = (seed.resumeToken.or (eventToken event)).or before
      ↔ seed.resumeToken.isSome = true ∨ eventToken event = none := by
  cases follows with
  | opening _ held =>
    rw [held]
    cases seed.resumeToken <;> cases eventToken event <;> simp
  | fetched => simp at silent

/-- Steps that bring no token leave it as it is. -/
theorem resumeToken_of_bare {s : ChangeStream} {o : Occasion Demand}
    (bare : ∀ e ∈ fetches (s.entry o).exchanges, ∀ step,
      e.step? s.connection.codec = some step → step.resumeToken = none ∧ step.event = none) :
    (s.entry o).after.resumeToken = s.resumeToken := by
  rw [s.resumes o]
  refine latestResume_of_none _ fun e member => ?_
  rcases came : e.step? s.connection.codec with _ | step
  · rfl
  · obtain ⟨own, event⟩ := bare e member step came
    rw [Option.bind_some, StreamSeed.token?, own, event]
    rfl

/-- A call for at most one fetch that fails or is given up leaves the token as it is. -/
theorem resumeToken_of_error {s : ChangeStream} {o : Occasion Demand} {halt : Halt}
    (tries : o.demand.Tries s) (fails : (s.entry o).result = .error halt) :
    (s.entry o).after.resumeToken = s.resumeToken := by
  obtain ⟨q, result, attempt⟩ := (s.entry_served o).attempt tries
  rcases q with h | event
  · exact attempt.resumes_of_error rfl
  · cases fails.symm.trans result

/-- The token to resume with, from any seed and by any calls, given up or not, whatever comes back
for their requests and whenever the close signal fires or the client is closed.  It is the one that
steps brought last; after an event of a step it is that of the step, or else that of the event, or
else what it was.  Steps without token and event, failures and fetches that come to nothing leave it
as it is.  The event of the reply that opened the stream leaves it as it is too, so that it is what
the event would have it be just where that reply had a token or its event has none. -/
theorem resume_token_follows_events (connection : Connection) (origin : Route) (serial : Nat)
    (seed : StreamSeed) (os : List (Occasion Demand)) (o : Occasion Demand) :
    let s := ofSeed connection origin serial seed
    let c := lived entry s os
    let r := c.entry o
    c.resumeToken = latestResume connection.codec seed.resumeToken
        (fetches (exchanged (life entry s os)))
      ∧ (∀ event, o.demand.Tries c ∨ o.demand.Waits c →
        r.result = .ok (o.demand.answer (some event)) →
          FollowsEvent connection.codec seed event c.resumeToken r.exchanges r.after.resumeToken
            ∧ (r.exchanges = [] → (r.after.resumeToken
                = (seed.resumeToken.or (eventToken event)).or c.resumeToken
              ↔ seed.resumeToken.isSome = true ∨ eventToken event = none)))
      ∧ ((∀ e ∈ fetches r.exchanges, ∀ step, e.step? connection.codec = some step →
          step.resumeToken = none ∧ step.event = none) → r.after.resumeToken = c.resumeToken)
      ∧ (o.demand.Tries c → (∃ halt, r.result = .error halt) →
          r.after.resumeToken = c.resumeToken) := by
  intro s c r
  have connection_eq : c.connection = connection := (s.same_lived os).1
  have unread : Unread seed c :=
    lived_keeps (fun c o _ => (c.entry_served o).unread) (.inr ⟨rfl, rfl⟩)
  rw [← connection_eq]
  refine ⟨?_, fun event asks gives => ?_, resumeToken_of_bare, fun tries fails => ?_⟩
  · rw [connection_eq]
    exact s.resumeToken_lived os
  · have follows := follows_event unread asks gives
    exact ⟨follows, follows.opening_iff⟩
  · obtain ⟨halt, fails⟩ := fails
    exact resumeToken_of_error tries fails

/-- A stream takes the token of an event that comes with a step, and keeps it through a fetch that
runs out of time. -/
theorem fetched_event_is_followed :
    let endpoint : Endpoint := ⟨⟨[], none, .bare [], none, none⟩, []⟩
    let connection : Connection := ⟨0, endpoint, .relaxed, 5⟩
    let seed : StreamSeed := ⟨some "s", none, none, true⟩
    let s := ofSeed connection .client 0 seed
    let step : Json := .object [("kind", .string "stream"), ("payload", .object
      [("event", .object [("_id", .object [("_data", .string "826")])])])]
    let o : Occasion Demand :=
      ⟨.tryNext, ⟨10, none⟩, World.start (.ofScript [("try_next", ⟨some (.body step), 0⟩)])⟩
    let late : Occasion Demand :=
      ⟨.tryNext, ⟨10, none⟩, World.start (.ofScript [("try_next", ⟨none, 0⟩)])⟩
    let event : Document := [("_id", .document [("_data", .string "826")])]
    FollowsEvent connection.codec seed event none (s.entry o).exchanges
        (s.entry o).after.resumeToken
      ∧ (s.entry o).after.resumeToken = some [("_data", .string "826")]
      ∧ ((lived entry s [o]).entry late).after.resumeToken = (lived entry s [o]).resumeToken := by
  intro endpoint connection seed s step o late event
  have token (os : List (Occasion Demand)) (o : Occasion Demand) :=
    resume_token_follows_events connection .client 0 seed os o
  have delivered := (token [] o).2.1 event (.inl (.inl rfl)) rfl
  exact ⟨delivered.1, rfl, (token [o] late).2.2.2 (.inl rfl) ⟨_, rfl⟩⟩

/-- The event of the reply that opened a stream is handed out and leaves the stream without a token,
though it has one. -/
theorem event_of_an_opening_reply_is_not_followed :
    let endpoint : Endpoint := ⟨⟨[], none, .bare [], none, none⟩, []⟩
    let connection : Connection := ⟨0, endpoint, .relaxed, 30000⟩
    let event : Document := [("_id", .document [("_data", .string "826")])]
    let s := ofSeed connection .client 0 ⟨some "s", none, some event, true⟩
    let fetched := s.tryNext ⟨10, none⟩ (World.start (.ofScript []))
    fetched.1 = .ok (some event) ∧ eventToken event = some [("_data", .string "826")]
      ∧ fetched.2.1.resumeToken = none :=
  ⟨rfl, rfl, rfl⟩

end ChangeStream

end RemoteDriver
