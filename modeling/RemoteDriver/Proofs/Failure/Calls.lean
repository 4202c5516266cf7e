import RemoteDriver.Proofs.Failure.Course
import RemoteDriver.Proofs.Surface.Invoking

/-!
# Commands that come down to one call

Whatever is asked of a client, a database or a collection is either answered on the spot, or it
comes down to one call, which is forwarded, and the reading of its reply (`Undertakes`).  Which call
that is can be read off the command (`Gateway.call?`).

Such a command accounts for its failure: it is misuse if nothing was posted, and otherwise the one
request is to blame (`Undertakes.ends`).
-/

namespace RemoteDriver

open Bson (Document Value)
open World (Sends Still)

/-! ## Exchanges of operations -/

namespace World

/-- From `w` to `w'` a sender had these exchanges, and nothing else went over the wire. -/
def Had (sender : Sender) (deadline : Nat → Nat) (w : World) (es : List Exchange) (w' : World) :
    Prop := ∃ v, Sends sender deadline w es v ∧ Still v w'

variable {sender : Sender} {deadline : Nat → Nat} {w w' w'' : World} {es : List Exchange}

/-- Exchanges that a sender made are all that went over the wire. -/
theorem Sends.had (sends : Sends sender deadline w es w') : Had sender deadline w es w' :=
  ⟨w', sends, .refl w'⟩

/-- Where nothing was posted there were no exchanges. -/
theorem Still.had (still : Still w w') : Had sender deadline w [] w' :=
  ⟨w, .nil sender deadline w, still⟩

/-- What happens afterwards without a request adds no exchange. -/
theorem Had.still (had : Had sender deadline w es w') (still : Still w' w'') :
    Had sender deadline w es w'' := by
  obtain ⟨v, sends, same⟩ := had
  exact ⟨v, sends, same.trans still⟩

/-- Where nothing has gone over the wire meanwhile, the same requests have the same exchanges. -/
theorem Still.had_of_had (still : Still w w') (had : Had sender deadline w' es w'') :
    Had sender deadline w es w'' := by
  obtain ⟨v, sends, same⟩ := had
  -- asked in the earlier world, the requests find the same remote side at the same time
  have again := replay_congr sender deadline still.remote.symm still.now.symm
    (es.map (·.request))
  unfold Sends at sends
  rw [sends] at again
  obtain ⟨answers, remote, now⟩ := again
  refine ⟨(replay sender deadline (es.map (·.request)) w).2, Prod.ext answers rfl,
    Still.trans ⟨?_, remote.symm, now.symm⟩ same⟩
  have posted := posted_replay sender deadline (es.map (·.request)) w'
  rw [sends, still.posted] at posted
  rw [posted_replay]
  exact posted

/-- The requests of the exchanges are what the log gained. -/
theorem Had.posted (had : Had sender deadline w es w') :
    w'.posted = w.posted ++ es.map (·.request) := by
  obtain ⟨v, sends, still⟩ := had
  rw [still.posted, sends.posted]

/-- The transcript between the two worlds tells the exchanges. -/
theorem Had.exchanges_eq (had : Had sender deadline w es w') :
    exchanges sender deadline w w' = es := by
  obtain ⟨v, sends, still⟩ := had
  rw [← sends.exchanges_eq, exchanges, exchanges, still.posted]

end World

/-- Between two worlds there were exchanges that account for a failure, if there was one. -/
def Accounted (codec : Codec) (sender : Sender) (deadline : Nat → Nat) (w : World)
    (failure : Option Error) (w' : World) : Prop :=
  ∃ es, World.Had sender deadline w es w' ∧ Accounts codec es failure

/-- Where nothing was posted and nothing failed there is nothing to account for. -/
theorem accounted_nothing (codec : Codec) (sender : Sender) (deadline : Nat → Nat) (w : World) :
    Accounted codec sender deadline w none w :=
  ⟨[], (Still.refl w).had, accounts_nothing codec⟩

/-- Misuse is accounted for by posting nothing. -/
theorem accounted_misuse (codec : Codec) (sender : Sender) (deadline : Nat → Nat) (w : World)
    {err : Error} (misuse : err.IsMisuse) : Accounted codec sender deadline w (some err) w :=
  ⟨[], (Still.refl w).had, accounts_misuse misuse⟩

/-- What accounts for a failure in a row does so by itself. -/
theorem Ran.accounted {codec : Codec} {sender : Sender} {deadline : Nat → Nat} {refusable : Prop}
    {w w' : World} {failure : Option Error}
    (ran : Ran codec sender deadline refusable w failure w') :
    Accounted codec sender deadline w failure w' := by
  obtain ⟨es, sends, course⟩ := ran
  exact ⟨es, sends.had, course.accounts⟩

/-- A call accounts for its failure. -/
theorem Connection.dispatch_accounted (c : Connection) (sender : Sender) (call : Call)
    (route : Route) (limits : Limits) (w : World) :
    Accounted c.codec sender (fun _ => limits.deadline) w
      (failure? (c.dispatch sender call route limits w).1)
      (c.dispatch sender call route limits w).2 := by
  rcases c.dispatch_refused_or_sent sender call route limits w
    with ⟨err, refuses, hd⟩ | ⟨e, w', _, sends, hd⟩
  · rw [hd]
    exact accounted_misuse _ _ _ w refuses.kind
  · rw [hd]
    have course : Course c.codec False [e] (failure? (e.result c.codec .abandoned)) := ?_
    · exact ⟨[e], sends.had, course.accounts⟩
    rcases e.result_cases c.codec .abandoned
      with ⟨reply, came, result⟩ | ⟨err, came, result⟩ | ⟨nothing, result⟩
    · rw [result]
      exact course_calm id (Exchange.not_fails_of_reply came)
    · rw [result]
      exact course_blamed id (Exchange.blames_of_failure came)
    · rw [result]
      exact course_calm id (Exchange.not_fails_of_nothing nothing)

/-! ## One call and what is read of its reply -/

instance : LawfulMonad Action :=
  LawfulMonad.mk' Action
    (by
      intro α t
      funext limits w
      show (t >>= fun a => pure a) limits w = t limits w
      rw [Action.bind_eq_resumed]
      rcases t limits w with ⟨_ | _, _⟩ <;> rfl)
    (by
      intro α β a f
      rfl)
    (by
      intro α β γ t f g
      funext limits w
      rw [Action.bind_eq_resumed, Action.bind_eq_resumed, Action.bind_eq_resumed]
      rcases t limits w with ⟨_ | a, w'⟩
      · rfl
      · exact (Action.bind_eq_resumed (f a) g limits w').symm)

/-- An error tells that the response to an operation was not understood. -/
def Error.IsMisread (operation : String) (err : Error) : Prop :=
  ∃ reason, err = .protocol operation reason

open RemoteDriver.Action

/-- What a computation comes down to on a handle with a gateway. -/
inductive Undertakes {α : Type} (g : Gateway) (t : Action α) : Option Call → Prop
  /-- It is answered on the spot, unless it is misuse. -/
  | answers (quiet : Quiet Error.IsMisuse t) : Undertakes g t none
  /-- One call is forwarded, and what comes of it is read off its reply. -/
  | forwards (call : Call) (f : Reply → Action α)
      (same : t = (do f (← g.forward call.name call.args call.kwargs)))
      (reads : ∀ reply, Quiet (Error.IsMisread call.name) (f reply)) : Undertakes g t (some call)

section undertakes

variable {α β : Type} {g : Gateway} {t : Action α} {call : Call} {call? : Option Call}

/-- A result that is read once more. -/
theorem Undertakes.read (h : Undertakes g t (some call)) {f : α → Action β}
    (reads : ∀ a, Quiet (Error.IsMisread call.name) (f a)) :
    Undertakes g (t >>= f) (some call) := by
  cases h with
  | forwards _ first same quiet =>
    refine .forwards call (fun reply => first reply >>= f) ?_ fun reply => ?_
    · rw [same, bind_assoc]
    · exact quiet_bind (quiet reply) reads

/-- A result with which something is done that cannot fail. -/
theorem Undertakes.andThen (h : Undertakes g t call?) {f : α → Action β}
    (quiet : ∀ a, Quiet (fun _ => False) (f a)) : Undertakes g (t >>= f) call? := by
  cases h with
  | answers first => exact .answers (quiet_bind first fun a => (quiet a).mono fun _ => False.elim)
  | forwards call first same reads =>
    exact (Undertakes.forwards call first same reads).read
      fun a => (quiet a).mono fun _ => False.elim

/-- A result that is put into other words. -/
theorem Undertakes.return (h : Undertakes g t call?) (f : α → β) :
    Undertakes g (do return f (← t)) call? := h.andThen fun _ => quiet_pure _

end undertakes

/-! ## Reading replies -/

section reads

variable {operation : String} {err : Error}

/-- A reply that is no value is a response that was not understood. -/
theorem isMisread_of_toValue {reply : Reply} (h : reply.toValue operation = .error err) :
    err.IsMisread operation := by
  cases reply <;> cases h <;> exact ⟨_, rfl⟩

/-- A reply that is no result set is a response that was not understood. -/
theorem isMisread_of_toCursor {reply : Reply} (h : reply.toCursor operation = .error err) :
    err.IsMisread operation := by
  cases reply <;> cases h <;> exact ⟨_, rfl⟩

/-- A reply that is no subscription is a response that was not understood. -/
theorem isMisread_of_toStream {reply : Reply} (h : reply.toStream operation = .error err) :
    err.IsMisread operation := by
  cases reply <;> cases h <;> exact ⟨_, rfl⟩

namespace Expected

/-- A value that is no document is not understood where one is expected. -/
theorem isMisread_of_document {v : Value} (h : document operation v = .error err) :
    err.IsMisread operation := by
  unfold document at h
  split at h <;> cases h
  exact ⟨_, rfl⟩

/-- A value that is neither null nor a document is not understood where one is expected. -/
theorem isMisread_of_optionalDocument {v : Value} (h : optionalDocument operation v = .error err) :
    err.IsMisread operation := by
  unfold optionalDocument at h
  split at h
  · cases h
  · rcases read : document operation v with err' | d
    · rw [read] at h
      cases h
      exact isMisread_of_document read
    · rw [read] at h
      cases h

/-- A list with something that is no text is not understood as a list of names. -/
theorem isMisread_of_namesOf {vs : List Value} (h : namesOf operation vs = .error err) :
    err.IsMisread operation := by
  induction vs with
  | nil => cases h
  | cons v vs ih =>
    unfold namesOf at h
    split at h
    · next err' read =>
      cases h
      unfold name at read
      split at read <;> cases read
      exact ⟨_, rfl⟩
    · split at h
      · next rest =>
        cases h
        exact ih rest
      · cases h

/-- A value that is no list of texts is not understood as a list of names. -/
theorem isMisread_of_names {v : Value} (h : names operation v = .error err) :
    err.IsMisread operation := by
  unfold names at h
  split at h
  · exact isMisread_of_namesOf h
  · cases h
    exact ⟨_, rfl⟩

/-- A value that is no array is not understood as a list. -/
theorem isMisread_of_items {v : Value} (h : items operation v = .error err) :
    err.IsMisread operation := by
  unfold items at h
  split at h <;> cases h
  exact ⟨_, rfl⟩

/-- A value that is no text is not understood as the name of an index. -/
theorem isMisread_of_indexName {v : Value} (h : indexName operation v = .error err) :
    err.IsMisread operation := by
  unfold indexName at h
  split at h <;> cases h
  exact ⟨_, rfl⟩

/-- A value that is no count is not understood as one. -/
theorem isMisread_of_count {v : Value} (h : count operation v = .error err) :
    err.IsMisread operation := by
  unfold count at h
  split at h
  · cases h
    exact ⟨_, rfl⟩
  · split at h <;> cases h
    exact ⟨_, rfl⟩

/-- A field that holds something else than a count is not understood. -/
theorem isMisread_of_countField {result : Document} {field : String}
    (h : countField operation result field = .error err) : err.IsMisread operation := by
  unfold countField at h
  split at h
  · exact isMisread_of_count h
  · cases h

end Expected

/-- An update whose counts are none is not understood. -/
theorem isMisread_of_updateResult {result : Document}
    (h : Collection.updateResult operation result = .error err) : err.IsMisread operation := by
  unfold Collection.updateResult at h
  rcases matched : Expected.countField operation result "matched_count" with err' | n
  · rw [matched] at h
    cases h
    exact Expected.isMisread_of_countField matched
  · rcases modified : Expected.countField operation result "modified_count" with err' | m
    · rw [matched, modified] at h
      cases h
      exact Expected.isMisread_of_countField modified
    · rw [matched, modified] at h
      cases h

end reads

/-! ## What gateways forward -/

namespace Gateway

variable (g : Gateway)

/-- Passing a call through comes down to that call. -/
theorem forward_undertakes (call : Call) :
    Undertakes g (g.forward call.name call.args call.kwargs) (some call) :=
  .forwards call pure (bind_pure _).symm fun _ => quiet_pure _

/-- Asking for a value comes down to the call, and its reply is read. -/
theorem value_undertakes (name : String) (args : List Value) (kwargs : Document) :
    Undertakes g (g.value name args kwargs) (some ⟨name, args, kwargs⟩) :=
  (g.forward_undertakes ⟨name, args, kwargs⟩).read
    fun _ => quiet_ofExcept fun _ => isMisread_of_toValue

/-- Opening a cursor comes down to the call, and its reply is read. -/
theorem cursor_undertakes (name : String) (args : List Value) (kwargs : Document) :
    Undertakes g (g.cursor name args kwargs) (some ⟨name, args, kwargs⟩) := by
  refine (g.forward_undertakes ⟨name, args, kwargs⟩).read fun _ => ?_
  refine quiet_bind (quiet_ofExcept fun _ => isMisread_of_toCursor) fun seed => ?_
  exact quiet_bind quiet_fresh fun _ => quiet_pure _

/-- Opening a change stream comes down to the call, and its reply is read. -/
theorem stream_undertakes (name : String) (args : List Value) (kwargs : Document) :
    Undertakes g (g.stream name args kwargs) (some ⟨name, args, kwargs⟩) := by
  refine (g.forward_undertakes ⟨name, args, kwargs⟩).read fun _ => ?_
  refine quiet_bind (quiet_ofExcept fun _ => isMisread_of_toStream) fun seed => ?_
  exact quiet_bind quiet_fresh fun _ => quiet_pure _

/-- A call of which any reply will do comes down to itself. -/
theorem forwardOutcome_undertakes (call : Call) :
    Undertakes g (g.forwardOutcome call.name call.args call.kwargs) (some call) :=
  (g.forward_undertakes call).andThen fun reply => Outcome.ofReply_quiet g reply

/-- A value that is read in some way. -/
theorem read_undertakes {α : Type} (name : String) (args : List Value) (kwargs : Document)
    {f : Value → Except Error α} (reads : ∀ v err, f v = .error err → err.IsMisread name) :
    Undertakes g (do Action.ofExcept (f (← g.value name args kwargs)))
      (some ⟨name, args, kwargs⟩) :=
  (g.value_undertakes name args kwargs).read fun v => quiet_ofExcept (reads v)

end Gateway

/-! ## How it ends -/

/-- A call that is posted has a form on the wire. -/
theorem Connection.Carries.encodes {c : Connection} {call : Call} {route : Route} {w : World}
    {e : Exchange} (carries : c.Carries call route w e) : call.Encodes c.codec := by
  obtain ⟨envelope, made, _⟩ := carries.request
  obtain ⟨args, kwargs, encodes, _⟩ := Envelope.ofCall_eq_ok.mp made
  exact ⟨args, kwargs, encodes⟩

/-- A refusal is a misuse of the operation that is called. -/
theorem Connection.Refuses.eq_usage {c : Connection} {call : Call} {route : Route} {w : World}
    {err : Error} (refuses : c.Refuses call route w err) :
    ∃ message, err = .usage call.name message := by
  rcases refuses with ⟨_, rfl⟩ | ⟨_, cannot⟩
  · exact ⟨_, rfl⟩
  · obtain ⟨cause, rfl⟩ := Envelope.ofCall_error cannot
    exact ⟨_, rfl⟩

/-- A call is refused for its client or for its values. -/
theorem Connection.Refuses.closed_or_not_encodes {c : Connection} {call : Call} {route : Route}
    {w : World} {err : Error} (refuses : c.Refuses call route w err) :
    w.isClosed c.client = true ∨ ¬ call.Encodes c.codec := by
  rcases refuses with ⟨closed, _⟩ | ⟨_, cannot⟩
  · exact .inl closed
  · right
    rintro ⟨args, kwargs, encodes⟩
    have made : Envelope.ofCall c.codec call route = .ok ⟨call.name, args, kwargs, route⟩ :=
      Envelope.ofCall_eq_ok.mpr ⟨args, kwargs, encodes, rfl⟩
    cases cannot.symm.trans made

/-- A call that is forwarded is misuse and changes nothing, or has one exchange that decides its
result. -/
theorem Gateway.forward_refused_or_sent (g : Gateway) (call : Call) (limits : Limits) (w : World) :
    (∃ message, g.forward call.name call.args call.kwargs limits w
        = (.error (.failed (.usage call.name message)), w))
      ∨ ∃ e w', g.connection.Carries call g.route w e
        ∧ Sends g.sender (fun _ => limits.deadline) w [e] w'
        ∧ g.forward call.name call.args call.kwargs limits w
          = (e.result g.connection.codec .abandoned, w') := by
  unfold forward
  rcases g.surface.operation? call.name with _ | operation
  · exact .inl ⟨_, rfl⟩
  · dsimp only
    rcases bound : operation.signature.bind call.name call.args call.kwargs with err | fits
    · obtain ⟨message, rfl⟩ := Signature.bind_error bound
      exact .inl ⟨message, rfl⟩
    · rcases g.connection.dispatch_refused_or_sent g.sender call g.route limits w
        with ⟨err, refuses, hd⟩ | sent
      · obtain ⟨message, rfl⟩ := refuses.eq_usage
        exact .inl ⟨message, hd⟩
      · exact .inr sent

/-- How a command ends that comes down to a call, or to none, on a handle with a gateway. -/
structure Ends (g : Gateway) (call? : Option Call) (es : List Exchange)
    (failure : Option Error) : Prop where
  /-- It accounts for its failure. -/
  accounts : Accounts g.connection.codec es failure
  /-- A call that is forwarded fails under its own name. -/
  called : ∀ call, call? = some call → ∀ err, failure = some err →
    err.operation? = some call.name
  /-- A value that has no form on the wire is misuse, and nothing is posted. -/
  unsendable : ∀ call, call? = some call → ¬ call.Encodes g.connection.codec →
    es = [] ∧ ∃ message, failure = some (.usage call.name message)

section ends

variable {α : Type} {g : Gateway} {t : Action α} {call : Call} {call? : Option Call}
  {es : List Exchange} {failure : Option Error}

/-- Where no call is forwarded there is nothing more to tell. -/
theorem Accounts.ends (accounts : Accounts g.connection.codec es failure) :
    Ends g none es failure :=
  ⟨accounts, by simp, by simp⟩

/-- A call that is refused. -/
theorem ends_refused (g : Gateway) (call : Call) (message : String) :
    Ends g (some call) [] (some (.usage call.name message)) := by
  refine ⟨accounts_misuse rfl, ?_, ?_⟩
  · rintro _ ⟨rfl⟩ _ ⟨rfl⟩
    rfl
  · rintro _ ⟨rfl⟩ _
    exact ⟨rfl, message, rfl⟩

/-- A call that is posted. -/
theorem ends_posted {e : Exchange} (encodes : call.Encodes g.connection.codec)
    (named : e.request.envelope.operation = call.name)
    (course : Course g.connection.codec False [e] failure) : Ends g (some call) [e] failure := by
  refine ⟨course.accounts, ?_, ?_⟩
  · rintro _ ⟨rfl⟩ err failed
    obtain ⟨before, last, same, blames, _⟩ := course.blamed err failed (List.cons_ne_nil e [])
    have single : [] ++ [e] = before ++ [last] := same
    obtain ⟨_, same⟩ := List.append_inj' single rfl
    cases same
    rw [blames.named, named]
  · rintro _ ⟨rfl⟩ cannot
    exact absurd encodes cannot

/-- What is undertaken accounts for its failure. -/
theorem Undertakes.ends (h : Undertakes g t call?) (limits : Limits) (w : World) :
    ∃ es, World.Had g.sender (fun _ => limits.deadline) w es (t limits w).2
      ∧ Ends g call? es (failure? (t limits w).1) := by
  cases h with
  | answers quiet =>
    refine ⟨[], (quiet.still limits w).had, Accounts.ends ?_⟩
    rcases came : (t limits w).1 with h | a
    · obtain ⟨err, rfl, misuse⟩ := quiet.failing limits w h came
      exact accounts_misuse misuse
    · exact accounts_nothing _
  | forwards call f same reads =>
    rw [same, bind_eq_resumed]
    rcases g.forward_refused_or_sent call limits w
      with ⟨message, hf⟩ | ⟨e, w', carries, sends, hf⟩
    · rw [hf]
      exact ⟨[], (Still.refl w).had, ends_refused g call message⟩
    · rw [hf]
      have posted {failure : Option Error} (course : Course g.connection.codec False [e] failure) :
          Ends g (some call) [e] failure := ends_posted carries.encodes carries.operation course
      rcases e.result_cases g.connection.codec .abandoned
        with ⟨reply, came, result⟩ | ⟨err, came, result⟩ | ⟨nothing, result⟩
      · rw [result]
        have quiet := reads reply
        refine ⟨[e], sends.had.still (quiet.still limits w'), posted ?_⟩
        unfold resumed
        dsimp only
        rcases read : (f reply limits w').1 with h | a
        · obtain ⟨err, rfl, reason, rfl⟩ := quiet.failing limits w' h read
          rw [← carries.operation]
          exact course_blamed id (Exchange.blames_of_reply came reason)
        · exact course_calm id (Exchange.not_fails_of_reply came)
      · rw [result]
        exact ⟨[e], sends.had, posted (course_blamed id (Exchange.blames_of_failure came))⟩
      · rw [result]
        exact ⟨[e], sends.had, posted (course_calm id (Exchange.not_fails_of_nothing nothing))⟩

end ends

end RemoteDriver
