import RemoteDriver.Connection

/-!
# Transcripts

What went over the wire while an operation ran.  The log of posted requests tells what was asked;
putting the same requests to the remote side again, in the world in which the operation began,
tells what came back for each of them.  So a transcript is read off the worlds before and after an
operation, and not off the operation.

`Sends` says that an operation did nothing to the world but to have a list of exchanges.  The main
statement is that a call is either refused on the spot, and then nothing happens to the world, or
has exactly one exchange, which decides its result (`dispatch_refused_or_sent`,
`dispatchWithin_refused_or_sent`).
-/

namespace RemoteDriver

/-- A request with what came back for it in time, if anything did. -/
structure Exchange where
  /-- What was posted. -/
  request : Request
  /-- What came back before the sender stopped waiting. -/
  content : Option Content

namespace Exchange

/-- What came back as a reply, or as the failure that it means. -/
def reply? (codec : Codec) (e : Exchange) : Option (Except Error Reply) :=
  e.content.map (Connection.received codec e.request.envelope.operation)

/-- The result of a call with this exchange; `late` is the one where nothing came back. -/
def result (codec : Codec) (late : Halt) (e : Exchange) : Except Halt Reply :=
  match e.reply? codec with
  | some (.ok reply) => .ok reply
  | some (.error err) => .error (.failed err)
  | none => .error late

end Exchange

namespace World

/-! ## Asking again -/

/-- What comes back for requests that are posted one after the other, and the world after them.
A request that is posted at some time is waited for until `deadline` of that time. -/
def replay (sender : Sender) (deadline : Nat → Nat) : List Request → World → List Exchange × World
  | [], w => ([], w)
  | request :: rest, w =>
    match Action.post sender request ⟨deadline w.now, none⟩ w with
    | (answer, w) =>
      let (exchanges, w) := replay sender deadline rest w
      (⟨request, answer.toOption⟩ :: exchanges, w)

/-- The exchanges of an operation that took the world `w` to `w'`. -/
def exchanges (sender : Sender) (deadline : Nat → Nat) (w w' : World) : List Exchange :=
  (replay sender deadline (w'.posted.drop w.posted.length) w).1

/-- From `w` to `w'` a sender had these exchanges, and nothing else happened. -/
def Sends (sender : Sender) (deadline : Nat → Nat) (w : World) (es : List Exchange)
    (w' : World) : Prop :=
  replay sender deadline (es.map (·.request)) w = (es, w')

variable {sender : Sender} {deadline : Nat → Nat} {w w' w'' : World} {es fs : List Exchange}

/-- A post adds to the log, and moves the remote side and the clock; nothing else changes. -/
theorem post_changes (sender : Sender) (request : Request) (limits : Limits) (w : World) :
    ∃ remote now, (Action.post sender request limits w).2
      = { w with posted := w.posted ++ [request], remote := remote, now := now } := by
  unfold Action.post
  dsimp only
  split
  · exact ⟨_, _, rfl⟩
  · split <;> exact ⟨_, _, rfl⟩

/-- A posted request is the last one of the log. -/
theorem posted_post (sender : Sender) (request : Request) (limits : Limits) (w : World) :
    (Action.post sender request limits w).2.posted = w.posted ++ [request] := by
  obtain ⟨remote, now, same⟩ := post_changes sender request limits w
  rw [same]

/-- A replay adds to the log, and moves the remote side and the clock; nothing else changes. -/
theorem replay_changes (sender : Sender) (deadline : Nat → Nat) (requests : List Request)
    (w : World) : ∃ remote now, (replay sender deadline requests w).2
      = { w with posted := w.posted ++ requests, remote := remote, now := now } := by
  induction requests generalizing w with
  | nil => exact ⟨w.remote, w.now, by simp [replay]⟩
  | cons request rest ih =>
    obtain ⟨remote, now, step⟩ := post_changes sender request ⟨deadline w.now, none⟩ w
    obtain ⟨remote', now', after⟩ := ih (Action.post sender request ⟨deadline w.now, none⟩ w).2
    refine ⟨remote', now', after.trans ?_⟩
    rw [step, List.append_assoc]
    rfl

/-- The log after a replay has the replayed requests at its end. -/
theorem posted_replay (sender : Sender) (deadline : Nat → Nat) (requests : List Request)
    (w : World) : (replay sender deadline requests w).2.posted = w.posted ++ requests := by
  obtain ⟨remote, now, same⟩ := replay_changes sender deadline requests w
  rw [same]

/-- What is replayed are the requests that are given. -/
theorem map_request_replay (sender : Sender) (deadline : Nat → Nat) (requests : List Request)
    (w : World) : (replay sender deadline requests w).1.map (·.request) = requests := by
  induction requests generalizing w with
  | nil => rfl
  | cons request rest ih =>
    rw [replay]
    exact congrArg (request :: ·) (ih _)

/-- What comes back for requests depends on the remote side and the time, and on nothing else; so do
the remote side and the time after them. -/
theorem replay_congr (sender : Sender) (deadline : Nat → Nat) {w v : World}
    (remote : w.remote = v.remote) (now : w.now = v.now) (requests : List Request) :
    (replay sender deadline requests w).1 = (replay sender deadline requests v).1
      ∧ (replay sender deadline requests w).2.remote = (replay sender deadline requests v).2.remote
      ∧ (replay sender deadline requests w).2.now = (replay sender deadline requests v).2.now := by
  induction requests generalizing w v with
  | nil => exact ⟨rfl, remote, now⟩
  | cons request rest ih =>
    have step : (Action.post sender request ⟨deadline w.now, none⟩ w).1
          = (Action.post sender request ⟨deadline v.now, none⟩ v).1
        ∧ (Action.post sender request ⟨deadline w.now, none⟩ w).2.remote
          = (Action.post sender request ⟨deadline v.now, none⟩ v).2.remote
        ∧ (Action.post sender request ⟨deadline w.now, none⟩ w).2.now
          = (Action.post sender request ⟨deadline v.now, none⟩ v).2.now := by
      unfold Action.post
      rw [remote, now]
      dsimp only
      split
      · exact ⟨rfl, rfl, rfl⟩
      · split <;> exact ⟨rfl, rfl, rfl⟩
    obtain ⟨answer, remote', now'⟩ := step
    obtain ⟨answers, after⟩ := ih remote' now'
    rw [replay, replay]
    dsimp only
    rw [answer, answers]
    exact ⟨rfl, after⟩

/-- The exchanges of an operation are those of the requests that it posted. -/
theorem map_request_exchanges (sender : Sender) (deadline : Nat → Nat) (w w' : World) :
    (exchanges sender deadline w w').map (·.request) = w'.posted.drop w.posted.length :=
  map_request_replay sender deadline _ w

/-- Without exchanges the world stays as it is. -/
theorem Sends.nil (sender : Sender) (deadline : Nat → Nat) (w : World) :
    Sends sender deadline w [] w := rfl

/-- A single post is one exchange. -/
theorem Sends.post (sender : Sender) (deadline : Nat → Nat) (request : Request) (w : World) :
    Sends sender deadline w
      [⟨request, (Action.post sender request ⟨deadline w.now, none⟩ w).1.toOption⟩]
      (Action.post sender request ⟨deadline w.now, none⟩ w).2 := rfl

/-- Replaying requests after requests is replaying all of them. -/
theorem replay_append (sender : Sender) (deadline : Nat → Nat) (requests more : List Request)
    (w : World) : replay sender deadline (requests ++ more) w
      = ((replay sender deadline requests w).1
          ++ (replay sender deadline more (replay sender deadline requests w).2).1,
        (replay sender deadline more (replay sender deadline requests w).2).2) := by
  induction requests generalizing w with
  | nil => rfl
  | cons request rest ih =>
    rw [List.cons_append, replay, replay]
    dsimp only
    rw [ih]
    rfl

/-- Exchanges after exchanges are the exchanges of both. -/
theorem Sends.trans (first : Sends sender deadline w es w')
    (second : Sends sender deadline w' fs w'') : Sends sender deadline w (es ++ fs) w'' := by
  unfold Sends at first second ⊢
  rw [List.map_append, replay_append, first, second]

/-- Exchanges come one after the other: the last one begins where the others have led to. -/
theorem Sends.exists_of_snoc {e : Exchange} (sends : Sends sender deadline w (es ++ [e]) w'') :
    ∃ w', Sends sender deadline w es w' ∧ Sends sender deadline w' [e] w'' := by
  unfold Sends at sends
  rw [List.map_append, replay_append, Prod.mk.injEq] at sends
  obtain ⟨told, left⟩ := sends
  have length : (replay sender deadline (es.map (·.request)) w).1.length = es.length := by
    have same := congrArg List.length (map_request_replay sender deadline (es.map (·.request)) w)
    rwa [List.length_map, List.length_map] at same
  obtain ⟨before, last⟩ := List.append_inj told length
  exact ⟨_, Prod.ext before rfl, Prod.ext last left⟩

/-- What holds of a post and of what comes after it holds of exchanges. -/
theorem Sends.of_posts {R : World → World → Prop} (refl : ∀ w, R w w)
    (trans : ∀ w w' w'', R w w' → R w' w'' → R w w'')
    (post : ∀ request limits w, R w (Action.post sender request limits w).2)
    (sends : Sends sender deadline w es w') : R w w' := by
  have all (requests : List Request) (w : World) : R w (replay sender deadline requests w).2 := by
    induction requests generalizing w with
    | nil => exact refl w
    | cons request rest ih => exact trans _ _ _ (post request ⟨deadline w.now, none⟩ w) (ih _)
  have holds := all (es.map (·.request)) w
  rwa [show replay sender deadline (es.map (·.request)) w = (es, w') from sends] at holds

/-- Exchanges add to the log, and move the remote side and the clock; nothing else changes. -/
theorem Sends.changes (h : Sends sender deadline w es w') : ∃ remote now, w'
    = { w with posted := w.posted ++ es.map (·.request), remote := remote, now := now } := by
  have same := replay_changes sender deadline (es.map (·.request)) w
  rw [h] at same
  exact same

/-- The requests of the exchanges are what the log gained. -/
theorem Sends.posted (h : Sends sender deadline w es w') :
    w'.posted = w.posted ++ es.map (·.request) := by
  obtain ⟨remote, now, same⟩ := h.changes
  rw [same]

/-- No client is closed meanwhile. -/
theorem Sends.isClosed (h : Sends sender deadline w es w') (client : Nat) :
    w'.isClosed client = w.isClosed client := by
  obtain ⟨remote, now, same⟩ := h.changes
  rw [same]
  rfl

/-- No close signal is fired meanwhile. -/
theorem Sends.hasFired (h : Sends sender deadline w es w') (subscription : Nat) :
    w'.hasFired subscription = w.hasFired subscription := by
  obtain ⟨remote, now, same⟩ := h.changes
  rw [same]
  rfl

/-- A single post takes no longer than its sender waits. -/
theorem Sends.now_le {e : Exchange} (sends : Sends sender deadline w [e] w') :
    w'.now ≤ max w.now (deadline w.now) := by
  have same : (Action.post sender e.request ⟨deadline w.now, none⟩ w).2 = w' :=
    congrArg Prod.snd sends
  rw [← same]
  unfold Action.post
  dsimp only
  split
  · exact Nat.le_refl _
  · split
    · next inTime => exact inTime
    · exact Nat.le_refl _

/-- Where nothing comes back, the sender has waited as long as it was to. -/
theorem Sends.now_of_nothing {e : Exchange} (sends : Sends sender deadline w [e] w')
    (nothing : e.content = none) : w'.now = max w.now (deadline w.now) := by
  have left : (Action.post sender e.request ⟨deadline w.now, none⟩ w).2 = w' :=
    congrArg Prod.snd sends
  have answer : (Action.post sender e.request ⟨deadline w.now, none⟩ w).1.toOption = e.content :=
    congrArg Exchange.content (List.cons.inj (congrArg Prod.fst sends)).1
  rw [nothing] at answer
  rw [← left]
  unfold Action.post at answer ⊢
  dsimp only at answer ⊢
  split
  · rfl
  · next content came =>
    rw [came] at answer
    dsimp only at answer
    split
    · next inTime =>
      rw [if_pos inTime] at answer
      cases answer
    · rfl

/-- The transcript between two worlds tells the exchanges that lead from one to the other. -/
theorem Sends.exchanges_eq (h : Sends sender deadline w es w') :
    exchanges sender deadline w w' = es := by
  rw [exchanges, h.posted, List.drop_left, h]

/-- Nothing was exchanged where nothing happened. -/
theorem exchanges_self (sender : Sender) (deadline : Nat → Nat) (w : World) :
    exchanges sender deadline w w = [] := (Sends.nil sender deadline w).exchanges_eq

end World

/-! ## Calls -/

namespace Action

/-- A request is waited for until the deadline; no other limit counts. -/
theorem post_deadline (sender : Sender) (request : Request) (limits : Limits) (w : World) :
    post sender request limits w = post sender request ⟨limits.deadline, none⟩ w := rfl

/-- A request comes to nothing only if its sender stops waiting. -/
theorem post_fst (sender : Sender) (request : Request) (limits : Limits) (w : World) :
    (post sender request limits w).1
      = match (post sender request limits w).1.toOption with
        | some content => .ok content
        | none => .error .abandoned := by
  unfold post
  dsimp only
  split
  · rfl
  · split <;> rfl

end Action

namespace Envelope

/-- An envelope of a call carries its operation and its route as they are. -/
theorem ofCall_ok {codec : Codec} {call : Call} {route : Route} {envelope : Envelope}
    (h : ofCall codec call route = .ok envelope) :
    envelope.operation = call.name ∧ envelope.context = route
      ∧ encodeArgs codec call.args = .ok envelope.args
      ∧ encodeKwargs codec call.kwargs = .ok envelope.kwargs := by
  unfold ofCall at h
  split at h
  · cases h
  · next args hargs =>
    split at h
    · cases h
    · next kwargs hkwargs =>
      cases h
      exact ⟨rfl, rfl, hargs, hkwargs⟩

/-- An argument that cannot be sent is a misuse of the operation. -/
theorem ofCall_error {codec : Codec} {call : Call} {route : Route} {err : Error}
    (h : ofCall codec call route = .error err) : ∃ cause, err = refused call.name cause := by
  unfold ofCall at h
  split at h
  · cases h
    exact ⟨_, rfl⟩
  · split at h
    · cases h
      exact ⟨_, rfl⟩
    · cases h

end Envelope

namespace Connection

open World (Sends)

/-- The error of a call that is refused before anything is posted: the client has been closed, or
an argument cannot be sent. -/
def Refuses (c : Connection) (call : Call) (route : Route) (w : World) (err : Error) : Prop :=
  (w.isClosed c.client = true ∧ err = closedError call.name)
    ∨ (w.isClosed c.client = false ∧ Envelope.ofCall c.codec call route = .error err)

/-- A refusal is a misuse of the operation. -/
theorem Refuses.kind {c : Connection} {call : Call} {route : Route} {w : World} {err : Error}
    (h : c.Refuses call route w err) : err.kind = .usage := by
  rcases h with ⟨_, rfl⟩ | ⟨_, h⟩
  · rfl
  · obtain ⟨cause, rfl⟩ := Envelope.ofCall_error h
    rfl

/-- A call without arguments is refused by a closed client only. -/
theorem Refuses.bare {c : Connection} {name : String} {route : Route} {w : World} {err : Error}
    (h : c.Refuses (.bare name) route w err) : w.isClosed c.client = true := by
  rcases h with ⟨closed, _⟩ | ⟨_, cannot⟩
  · exact closed
  · cases cannot

/-- An exchange that a call makes on an open client. -/
structure Carries (c : Connection) (call : Call) (route : Route) (w : World) (e : Exchange) :
    Prop where
  /-- The client has not been closed. -/
  isOpen : w.isClosed c.client = false
  /-- The request is the envelope of the call. -/
  request : ∃ envelope, Envelope.ofCall c.codec call route = .ok envelope
    ∧ e.request = c.request envelope

/-- The operation of the request is that of the call. -/
theorem Carries.operation {c : Connection} {call : Call} {route : Route} {w : World}
    {e : Exchange} (h : c.Carries call route w e) :
    e.request.envelope.operation = call.name := by
  obtain ⟨envelope, he, hr⟩ := h.request
  rw [hr]
  exact (Envelope.ofCall_ok he).1

/-- The request of a call without arguments. -/
theorem Carries.bare {c : Connection} {name : String} {route : Route} {w : World} {e : Exchange}
    (h : c.Carries (.bare name) route w e) : e.request = c.request ⟨name, [], [], route⟩ := by
  obtain ⟨⟨op, as, ks, context⟩, he, hr⟩ := h.request
  obtain ⟨operation, same, args, kwargs⟩ := Envelope.ofCall_ok he
  dsimp only at operation same args kwargs
  cases args
  cases kwargs
  rw [hr, operation, same]
  rfl

/-- A call is refused and changes nothing, or has one exchange that decides its result. -/
theorem dispatch_refused_or_sent (c : Connection) (sender : Sender) (call : Call) (route : Route)
    (limits : Limits) (w : World) :
    (∃ err, c.Refuses call route w err
        ∧ c.dispatch sender call route limits w = (.error (.failed err), w))
      ∨ ∃ e w', c.Carries call route w e ∧ Sends sender (fun _ => limits.deadline) w [e] w'
          ∧ c.dispatch sender call route limits w = (e.result c.codec .abandoned, w') := by
  unfold dispatch
  split
  · next closed => exact Or.inl ⟨_, Or.inl ⟨closed, rfl⟩, rfl⟩
  · next isOpen =>
    simp only [Bool.not_eq_true] at isOpen
    split
    · next err he => exact Or.inl ⟨err, Or.inr ⟨isOpen, he⟩, rfl⟩
    · next envelope he =>
      right
      have answer := Action.post_fst sender (c.request envelope) limits w
      have named := (Envelope.ofCall_ok he).1
      refine ⟨_, _, ⟨isOpen, envelope, he, rfl⟩,
        Sends.post sender (fun _ => limits.deadline) (c.request envelope) w, ?_⟩
      rw [← Action.post_deadline]
      generalize Action.post sender (c.request envelope) limits w = posted at answer ⊢
      obtain ⟨r, w'⟩ := posted
      rcases r with h | content
      · simp only [Except.toOption, Except.error.injEq] at answer
        subst answer
        rfl
      · simp only [Exchange.result, Exchange.reply?, Except.toOption, Option.map_some,
          request, named]
        cases received c.codec call.name content <;> rfl

/-- The same of a call that is bounded in time.  Where nothing comes back, the call has taken too
long or its caller has stopped waiting, whichever comes first. -/
theorem dispatchWithin_refused_or_sent (c : Connection) (span : Nat) (sender : Sender)
    (call : Call) (route : Route) (limits : Limits) (w : World) :
    (∃ err, c.Refuses call route w err
        ∧ c.dispatchWithin span sender call route limits w = (.error (.failed err), w))
      ∨ ∃ e w', c.Carries call route w e
          ∧ Sends sender (fun now => min (now + span) limits.deadline) w [e] w'
          ∧ c.dispatchWithin span sender call route limits w
            = (e.result c.codec (if w.now + span ≤ limits.deadline then .failed (.timeout call.name)
                else .abandoned), w') := by
  unfold dispatchWithin Action.within
  dsimp only
  split
  · next fits =>
    rcases c.dispatch_refused_or_sent sender call route { limits with deadline := w.now + span } w
      with ⟨err, refuses, hd⟩ | ⟨e, w', carries, sends, hd⟩
    · exact Or.inl ⟨err, refuses, by rw [hd]⟩
    · refine Or.inr ⟨e, w', carries, ?_, ?_⟩
      · have same : min (w.now + span) limits.deadline = w.now + span := Nat.min_eq_left fits
        simpa only [Sends, World.replay, List.map_cons, List.map_nil, same] using sends
      · rw [hd]
        unfold Exchange.result
        cases e.reply? c.codec with
        | none => rfl
        | some reply => cases reply <;> rfl
  · next late =>
    rcases c.dispatch_refused_or_sent sender call route limits w
      with ⟨err, refuses, hd⟩ | ⟨e, w', carries, sends, hd⟩
    · exact Or.inl ⟨err, refuses, hd⟩
    · refine Or.inr ⟨e, w', carries, ?_, hd⟩
      have same : min (w.now + span) limits.deadline = limits.deadline :=
        Nat.min_eq_right (by omega)
      simpa only [Sends, World.replay, List.map_cons, List.map_nil, same] using sends

end Connection

end RemoteDriver
