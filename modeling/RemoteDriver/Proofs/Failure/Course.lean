import RemoteDriver.Proofs.Closing.Loops
import RemoteDriver.Proofs.Quiet

/-!
# Failures and what they are due to

An operation that fails has either sent nothing, and then it was misused, or its last request is to
blame.  What came back for that request tells the kind of the failure (`Blames`), no request before
it had failed, and none was sent after it.  `Accounts` says so of the exchanges of an operation and
the failure that it ends with, if there is one.

A loop of operations accounts for its failure if its body does and if the requests of one round are
refused exactly where those of the next would be (`Course`, `uses_of_rounds`).
-/

namespace RemoteDriver

/-! ## Values that do not decode -/

/-- A response holds a value that does not decode. -/
def Response.IsGarbled (codec : Codec) : Response → Prop
  | .value payload => ∃ err, codec.decode payload = .error err
  | .cursor _ batch _ => ∃ v ∈ batch, ∃ err, codec.decodeDocument v = .error err
  | .stream _ token event _ =>
    ∃ v ∈ [token, event], v ≠ .null ∧ ∃ err, codec.decodeDocument v = .error err
  | .error _ => False

section garbled

variable {codec : Codec}

/-- A list with something that is no document is not read. -/
theorem Reply.documents_error {vs : List Json}
    (h : ∃ v ∈ vs, ∃ err, codec.decodeDocument v = .error err) :
    ∃ err, Reply.documents codec vs = .error err := by
  induction vs with
  | nil =>
    obtain ⟨v, member, _⟩ := h
    cases member
  | cons v vs ih =>
    rw [Reply.documents]
    rcases read : codec.decodeDocument v with err | d
    · exact ⟨err, rfl⟩
    · obtain ⟨v', member, err, fails⟩ := h
      have rest : v' ∈ vs := by
        rcases List.mem_cons.mp member with rfl | rest
        · cases read.symm.trans fails
        · exact rest
      obtain ⟨err, fails⟩ := ih ⟨v', rest, err, fails⟩
      rw [fails]
      exact ⟨err, rfl⟩

/-- What is given and is no document is not read. -/
theorem Reply.optionalDocument_error {v : Json} {err : Error} (given : v ≠ .null)
    (fails : codec.decodeDocument v = .error err) :
    Reply.optionalDocument codec v = .error err := by
  unfold Reply.optionalDocument
  split
  · exact absurd rfl given
  · rw [fails]
    rfl

/-- One value that does not decode makes an error of the whole. -/
theorem Response.IsGarbled.undecodable {response : Response} (h : response.IsGarbled codec)
    (operation : String) :
    ∃ err, Reply.ofResponse codec operation response
      = .error (Reply.undecodable operation err) := by
  cases response with
  | value payload =>
    obtain ⟨err, fails⟩ := h
    rw [Reply.ofResponse, fails]
    exact ⟨err, rfl⟩
  | cursor id batch origin =>
    obtain ⟨err, fails⟩ := Reply.documents_error h
    rw [Reply.ofResponse, fails]
    exact ⟨err, rfl⟩
  | stream id token event alive =>
    obtain ⟨v, member, given, err, fails⟩ := h
    have fails := Reply.optionalDocument_error given fails
    rw [Reply.ofResponse]
    rcases first : Reply.optionalDocument codec token with err' | d
    · exact ⟨err', rfl⟩
    · have last : v = event := by
        rcases List.mem_cons.mp member with rfl | rest
        · cases first.symm.trans fails
        · exact List.mem_singleton.mp rest
      rw [← last, fails]
      exact ⟨err, rfl⟩
  | error reason => exact h.elim

end garbled

/-! ## Failing requests -/

namespace Exchange

/-- What came back for a request is a failure, whatever was expected. -/
def Fails (codec : Codec) (e : Exchange) : Prop := ∃ err, e.reply? codec = some (.error err)

/-- A request is to blame for an error: what came back for it tells the kind of the error, and the
error names the operation that was requested. -/
inductive Blames (e : Exchange) : Error → Prop
  /-- Nothing came back in time. -/
  | late (nothing : e.content = none) : Blames e (.timeout e.request.envelope.operation)
  /-- The endpoint could not be reached. -/
  | unreachable {reason : String} (came : e.content = some (.unreachable reason)) :
      Blames e (.connectivity e.request.envelope.operation reason)
  /-- What came back is no JSON. -/
  | undecodable {reason : String} (came : e.content = some (.undecodable reason)) :
      Blames e (.protocol e.request.envelope.operation reason)
  /-- What came back is no response. -/
  | unreadable {v : Json} {fault : Json.Fault} (came : e.content = some (.body v))
      (reads : Response.ofJson v = .error fault) :
      Blames e (.protocol e.request.envelope.operation fault.message)
  /-- The request was rejected. -/
  | rejected {v : Json} {reason : String} (came : e.content = some (.body v))
      (reads : Response.ofJson v = .ok (.error reason)) :
      Blames e (.operation e.request.envelope.operation reason)
  /-- The response holds a value that does not decode, or not what the operation promises. -/
  | misread {v : Json} {response : Response} (reason : String) (came : e.content = some (.body v))
      (reads : Response.ofJson v = .ok response) (accepted : ∀ why, response ≠ .error why) :
      Blames e (.protocol e.request.envelope.operation reason)

variable {codec : Codec} {e : Exchange} {err : Error}

/-- The error names the operation of the request. -/
theorem Blames.named (h : e.Blames err) : err.operation? = some e.request.envelope.operation := by
  cases h <;> rfl

/-- An error that a request is to blame for is no misuse. -/
theorem Blames.not_isMisuse (h : e.Blames err) : ¬ err.IsMisuse := by
  intro misuse
  cases h <;> cases misuse

/-- What came back for a request that failed is to blame. -/
theorem blames_of_failure (h : e.reply? codec = some (.error err)) : e.Blames err := by
  obtain ⟨content, came, means⟩ := Option.map_eq_some_iff.mp h
  cases content with
  | unreachable reason =>
    cases means
    exact .unreachable came
  | undecodable reason =>
    cases means
    exact .undecodable came
  | body v =>
    simp only [Connection.received, Reply.decode] at means
    split at means
    · next response reads =>
      cases response <;> simp only [Reply.ofResponse] at means
      case value payload =>
        split at means <;> cases means
        exact .misread _ came reads (by simp)
      case cursor id batch origin =>
        split at means <;> cases means
        exact .misread _ came reads (by simp)
      case stream id token event alive =>
        split at means
        · cases means
          exact .misread _ came reads (by simp)
        · split at means <;> cases means
          exact .misread _ came reads (by simp)
      case error reason =>
        cases means
        exact .rejected came reads
    · next fault reads =>
      cases means
      exact .unreadable came reads

/-- A reply that is not what the operation promises is to blame for the error that says so. -/
theorem blames_of_reply {reply : Reply} (h : e.reply? codec = some (.ok reply)) (reason : String) :
    e.Blames (.protocol e.request.envelope.operation reason) := by
  obtain ⟨content, came, means⟩ := Option.map_eq_some_iff.mp h
  cases content with
  | unreachable | undecodable => cases means
  | body v =>
    simp only [Connection.received, Reply.decode] at means
    split at means
    · next response reads =>
      refine .misread reason came reads ?_
      rintro why rfl
      cases means
    · cases means

/-- What came back holds a value that does not decode. -/
def Garbled (codec : Codec) (e : Exchange) : Prop :=
  ∃ v response, e.content = some (.body v) ∧ Response.ofJson v = .ok response
    ∧ response.IsGarbled codec

/-- A request has failed for which a value came back that does not decode. -/
theorem Garbled.fails (h : e.Garbled codec) : e.Fails codec := by
  obtain ⟨v, response, came, reads, garbled⟩ := h
  obtain ⟨err, fails⟩ := garbled.undecodable e.request.envelope.operation
  have means : Connection.received codec e.request.envelope.operation (.body v)
      = .error (Reply.undecodable e.request.envelope.operation err) := by
    simp only [Connection.received, Reply.decode, reads]
    exact fails
  exact ⟨_, Option.map_eq_some_iff.mpr ⟨.body v, came, means⟩⟩

/-- The error that such a request is to blame for tells that its response was not understood. -/
theorem Blames.protocol_of_garbled (h : e.Blames err) (garbled : e.Garbled codec) :
    ∃ reason, err = .protocol e.request.envelope.operation reason := by
  obtain ⟨v, response, came, reads, holds⟩ := garbled
  cases h with
  | late nothing => cases nothing.symm.trans came
  | unreachable unreached => cases unreached.symm.trans came
  | undecodable => exact ⟨_, rfl⟩
  | unreadable => exact ⟨_, rfl⟩
  | rejected came' reads' =>
    cases came'.symm.trans came
    cases reads'.symm.trans reads
    exact holds.elim
  | misread reason => exact ⟨reason, rfl⟩

/-- A request for which a reply came back has not failed. -/
theorem not_fails_of_reply {reply : Reply} (h : e.reply? codec = some (.ok reply)) :
    ¬ e.Fails codec := by
  rintro ⟨err, failed⟩
  cases h.symm.trans failed

/-- A request for which nothing came back has not failed. -/
theorem not_fails_of_nothing (h : e.content = none) : ¬ e.Fails codec := by
  rintro ⟨err, failed⟩
  unfold reply? at failed
  rw [h] at failed
  cases failed

/-- What comes of a call with an exchange: a reply, a failure, or nothing in time. -/
theorem result_cases (codec : Codec) (late : Halt) (e : Exchange) :
    (∃ reply, e.reply? codec = some (.ok reply) ∧ e.result codec late = .ok reply)
      ∨ (∃ err, e.reply? codec = some (.error err) ∧ e.result codec late = .error (.failed err))
      ∨ (e.content = none ∧ e.result codec late = .error late) := by
  unfold result
  rcases came : e.reply? codec with _ | (err | reply)
  · exact .inr (.inr ⟨by simpa [reply?] using came, rfl⟩)
  · exact .inr (.inl ⟨err, rfl, rfl⟩)
  · exact .inl ⟨reply, rfl, rfl⟩

end Exchange

/-! ## Accounting for failures -/

/-- An operation with these exchanges accounts for how it ends, with a failure or without. -/
structure Accounts (codec : Codec) (es : List Exchange) (failure : Option Error) : Prop where
  /-- Without a failure no request has failed. -/
  calm : failure = none → ∀ e ∈ es, ¬ e.Fails codec
  /-- A failure names an operation. -/
  named : ∀ err, failure = some err → ∃ operation, err.operation? = some operation
  /-- It tells of misuse if and only if nothing was posted. -/
  usage : ∀ err, failure = some err → (err.kind = .usage ↔ es = [])
  /-- Otherwise the last request is to blame, and no other one has failed. -/
  blamed : ∀ err, failure = some err → es ≠ [] →
    ∃ before e, es = before ++ [e] ∧ e.Blames err ∧ ∀ b ∈ before, ¬ b.Fails codec

/-- The same of operations that are made in a row; whether their requests are refused is the same
for all of them. -/
structure Course (codec : Codec) (refusable : Prop) (es : List Exchange)
    (failure : Option Error) : Prop where
  /-- Without a failure no request has failed. -/
  calm : failure = none → ∀ e ∈ es, ¬ e.Fails codec
  /-- A failure where nothing was posted is a refusal. -/
  refused : ∀ err, failure = some err → es = [] → refusable ∧ err.IsMisuse
  /-- Otherwise the last request is to blame, and no other one has failed. -/
  blamed : ∀ err, failure = some err → es ≠ [] →
    ∃ before e, es = before ++ [e] ∧ e.Blames err ∧ ∀ b ∈ before, ¬ b.Fails codec
  /-- What is posted is not refused. -/
  sent : es ≠ [] → ¬ refusable

section course

variable {codec : Codec} {refusable : Prop} {es fs : List Exchange} {failure : Option Error}
  {e : Exchange} {err : Error}

/-- Misuse names an operation. -/
theorem Error.IsMisuse.named (h : err.IsMisuse) : ∃ operation, err.operation? = some operation := by
  cases err <;> cases h
  exact ⟨_, rfl⟩

/-- Where nothing happened there is nothing to account for. -/
theorem accounts_nothing (codec : Codec) : Accounts codec [] none := by
  constructor <;> simp

/-- Misuse is accounted for without a request. -/
theorem accounts_misuse (h : err.IsMisuse) : Accounts codec [] (some err) := by
  refine ⟨by simp, ?_, ?_, by simp⟩
  · rintro _ ⟨rfl⟩
    exact h.named
  · rintro _ ⟨rfl⟩
    exact ⟨fun _ => rfl, fun _ => h⟩

/-- What accounts for a row of operations accounts for its failure. -/
theorem Course.accounts (course : Course codec refusable es failure) :
    Accounts codec es failure where
  calm := course.calm
  blamed := course.blamed
  named err failed := by
    by_cases none : es = []
    · exact (course.refused err failed none).2.named
    · obtain ⟨_, _, _, blames, _⟩ := course.blamed err failed none
      exact ⟨_, blames.named⟩
  usage err failed := by
    refine ⟨fun misuse => ?_, fun none => (course.refused err failed none).2⟩
    refine Classical.byContradiction fun some => ?_
    obtain ⟨_, _, _, blames, _⟩ := course.blamed err failed some
    exact blames.not_isMisuse misuse

/-- An operation that gets a value which does not decode tells that it was not understood. -/
theorem Accounts.garbled (accounts : Accounts codec es failure) (member : e ∈ es)
    (garbled : e.Garbled codec) :
    ∃ reason, failure = some (.protocol e.request.envelope.operation reason) := by
  rcases failure with _ | err
  · exact absurd garbled.fails (accounts.calm rfl e member)
  · obtain ⟨before, last, rfl, blames, calm⟩ :=
      accounts.blamed err rfl (List.ne_nil_of_mem member)
    rcases List.mem_append.mp member with earlier | final
    · exact absurd garbled.fails (calm e earlier)
    · cases List.mem_singleton.mp final
      obtain ⟨reason, rfl⟩ := blames.protocol_of_garbled garbled
      exact ⟨reason, rfl⟩

/-- A row without operations has no failure. -/
theorem course_nothing (codec : Codec) (refusable : Prop) : Course codec refusable [] none := by
  constructor <;> simp

/-- A row whose requests are refused is misuse, and nothing is posted for it. -/
theorem course_refused (h : refusable) (misuse : err.IsMisuse) :
    Course codec refusable [] (some err) := by
  refine ⟨by simp, ?_, by simp, by simp⟩
  rintro _ ⟨rfl⟩ _
  exact ⟨h, misuse⟩

/-- A request that did not make the operation fail. -/
theorem course_calm (sent : ¬ refusable) (calm : ¬ e.Fails codec) :
    Course codec refusable [e] none := by
  refine ⟨?_, by simp, by simp, fun _ => sent⟩
  intro _ e' member
  cases List.mem_singleton.mp member
  exact calm

/-- A request that made the operation fail. -/
theorem course_blamed (sent : ¬ refusable) (blames : e.Blames err) :
    Course codec refusable [e] (some err) := by
  refine ⟨by simp, by simp, ?_, fun _ => sent⟩
  rintro _ ⟨rfl⟩ _
  exact ⟨[], e, rfl, blames, by simp⟩

/-- An operation after one that did not fail. -/
theorem Course.append (first : Course codec refusable es none)
    (second : Course codec refusable fs failure) : Course codec refusable (es ++ fs) failure where
  calm none e member := by
    rcases List.mem_append.mp member with member | member
    · exact first.calm rfl e member
    · exact second.calm none e member
  refused err failed none := second.refused err failed (List.append_eq_nil_iff.mp none).2
  blamed err failed some := by
    by_cases none : fs = []
    · -- the second operation cannot have been refused, since the first one was not
      obtain ⟨refusable, _⟩ := second.refused err failed none
      rw [none, List.append_nil] at some
      exact absurd refusable (first.sent some)
    · obtain ⟨before, e, last, blames, calm⟩ := second.blamed err failed none
      refine ⟨es ++ before, e, by rw [last, List.append_assoc], blames, fun b member => ?_⟩
      rcases List.mem_append.mp member with member | member
      · exact first.calm rfl b member
      · exact calm b member
  sent some := by
    rcases es with _ | ⟨e, es⟩
    · exact second.sent some
    · exact first.sent (List.cons_ne_nil e es)

/-- A request that nothing came back for in time has not failed, and the operation may go on. -/
theorem Course.of_timeout (course : Course codec refusable es (some err))
    (late : err.kind = .timeout) : Course codec refusable es none := by
  refine ⟨fun _ e member => ?_, by simp, by simp, course.sent⟩
  obtain ⟨before, last, rfl, blames, calm⟩ :=
    course.blamed err rfl (List.ne_nil_of_mem member)
  rcases List.mem_append.mp member with member | member
  · exact calm e member
  · cases List.mem_singleton.mp member
    cases blames with
    | late nothing => exact Exchange.not_fails_of_nothing nothing
    | unreachable | undecodable | unreadable | rejected | misread => cases late

end course

/-- From one world to another there were exchanges, and nothing else happened; they account for a
failure, if there was one. -/
def Ran (codec : Codec) (sender : Sender) (deadline : Nat → Nat) (refusable : Prop) (w : World)
    (failure : Option Error) (w' : World) : Prop :=
  ∃ es, World.Sends sender deadline w es w' ∧ Course codec refusable es failure

section ran

variable {codec : Codec} {sender : Sender} {deadline : Nat → Nat} {refusable : Prop}
  {w w' w'' : World} {failure : Option Error}

/-- Where nothing happens, no failure has to be accounted for. -/
theorem ran_nothing (codec : Codec) (sender : Sender) (deadline : Nat → Nat) (refusable : Prop)
    (w : World) : Ran codec sender deadline refusable w none w :=
  ⟨[], .nil sender deadline w, course_nothing codec refusable⟩

/-- A request that is refused is misuse, and nothing goes over the wire. -/
theorem ran_refused {err : Error} (h : refusable) (misuse : err.IsMisuse) :
    Ran codec sender deadline refusable w (some err) w :=
  ⟨[], .nil sender deadline w, course_refused h misuse⟩

/-- One after the other. -/
theorem Ran.trans (first : Ran codec sender deadline refusable w none w')
    (second : Ran codec sender deadline refusable w' failure w'') :
    Ran codec sender deadline refusable w failure w'' := by
  obtain ⟨es, sends, course⟩ := first
  obtain ⟨fs, sends', course'⟩ := second
  exact ⟨es ++ fs, sends.trans sends', course.append course'⟩

end ran

/-! ## Loops -/

section loop

variable {α β σ : Type} {law : World → Option Error → World → Prop} {own : σ → World → Prop}
  {error? : β → Option Error} {error'? : α → Option Error} {turn : β → σ → Turn α}
  {limits : Limits} {w : World}

/-- The use of a handle obeys a law about the worlds before and after it and the failure between,
and leaves the handle in order. -/
structure Uses (law : World → Option Error → World → Prop) (own : σ → World → Prop)
    (error? : α → Option Error) (w : World) (r : α × σ × World) : Prop where
  /-- The law is obeyed. -/
  obeys : law w (error? r.1) r.2.2
  /-- The handle is in order. -/
  own : own r.2.1 r.2.2

/-- A loop ends with the failure of its last round, and goes on after rounds without one. -/
structure Tells (error? : β → Option Error) (error'? : α → Option Error)
    (turn : β → σ → Turn α) : Prop where
  /-- It stops with the failure of the round. -/
  stops : ∀ b s a, turn b s = .stop a → error'? a = error? b
  /-- It goes on without a failure, and that of what follows is passed on. -/
  goesOn : ∀ b s f, turn b s = .again f → error? b = none ∧ ∀ a, error'? (f a) = error'? a

/-- Going round obeys a law that rounds in a row obey, if the body obeys it and so does what
follows. -/
theorem uses_unrolled (trans : ∀ {w w' w'' failure}, law w none w' → law w' failure w'' →
      law w failure w'') (tells : Tells error? error'? turn)
    {body : Limits → World → β × σ × World} {t : σ → Limits → World → α × σ × World}
    (first : Uses law own error? w (body limits w))
    (rest : ∀ b s w' f, body limits w = (b, s, w') → turn b s = .again f → own s w' →
      Uses law own error'? w' (t s limits w')) :
    Uses law own error'? w (unrolled turn body t limits w) := by
  unfold unrolled
  rcases ran : body limits w with ⟨b, s, w'⟩
  rw [ran] at first
  obtain ⟨obeys, kept⟩ := first
  dsimp only at obeys kept ⊢
  rcases turned : turn b s with a | f
  · refine ⟨?_, kept⟩
    rw [tells.stops b s a turned]
    exact obeys
  · obtain ⟨calm, passes⟩ := tells.goesOn b s f turned
    have next := rest b s w' f ran turned kept
    rw [calm] at obeys
    refine ⟨?_, next.own⟩
    dsimp only
    rw [passes]
    exact trans obeys next.obeys

/-- A loop obeys a law that its body obeys. -/
theorem uses_of_rounds {body : σ → Limits → World → β × σ × World}
    {t : σ → Limits → World → α × σ × World} {rank : σ → World → Nat × Nat}
    (trans : ∀ {w w' w'' failure}, law w none w' → law w' failure w'' → law w failure w'')
    (tells : Tells error? error'? turn)
    (body_uses : ∀ s w, own s w → Uses law own error? w (body s limits w))
    (rounds : ∀ s, Round turn (body s) t rank s) (s : σ) (w : World) (start : own s w) :
    Uses law own error'? w (t s limits w) := by
  have wf : WellFounded (Prod.Lex (· < ·) (· < ·) : Nat × Nat → Nat × Nat → Prop) :=
    WellFoundedRelation.wf
  -- the induction is on how far the loop is from its end
  induction ranked : rank s w using wf.induction generalizing s w with
  | _ r ih =>
    subst ranked
    rw [(rounds s).unrolls]
    refine uses_unrolled trans tells (body_uses s w start) fun b s' w' f ran again kept => ?_
    exact ih _ ((rounds s).falls limits w b s' w' f ran again) s' w' kept rfl

end loop

end RemoteDriver
