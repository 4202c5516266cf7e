import RemoteDriver.Proofs.Closing.Streams
import RemoteDriver.Proofs.Failure.Calls

/-!
# Worlds that look the same to a handle

A cursor or a change stream sees little of the world: the answers of its own queues, its own close
signal, which clients have been closed, and how much time passes.  Two worlds that agree on these
are `Beside` each other for the handle; they may differ in everything that other handles have done,
and their clocks may be apart.

What such a handle does has the same result in two worlds beside each other, posts the same
requests, takes the same time, and leaves the worlds beside each other (`Alike`).  That is so of a
post, and is carried through calls and loops.
-/

namespace RemoteDriver

/-! ## Queues of answers -/

namespace Remote

/-- The answers of a queue among others, in order. -/
def answersOf (queue : String) (script : List (String × Answer)) : List Answer :=
  script.filterMap fun entry => if entry.1 = queue then some entry.2 else none

/-- The answers that a queue has left. -/
def answers (r : Remote) (queue : String) : List Answer := answersOf queue r.script

/-- Requests of different handles are answered from different queues. -/
def Separates (r : Remote) : Prop :=
  ∀ a b operation operation',
    r.queueOf (some a) operation = r.queueOf (some b) operation' → a = b

/-- A remote side that has the same queues keeps them apart as well. -/
theorem Separates.of_queueOf {r r' : Remote} (separates : r.Separates)
    (same : r'.queueOf = r.queueOf) : r'.Separates := by
  unfold Separates
  rw [same]
  exact separates

variable {queue : String} {script left : List (String × Answer)} {a : Answer}

/-- An answer counts for the queue that it is in. -/
theorem answersOf_cons (queue name : String) (a : Answer) (rest : List (String × Answer)) :
    answersOf queue ((name, a) :: rest)
      = if name = queue then a :: answersOf queue rest else answersOf queue rest := by
  unfold answersOf
  rw [List.filterMap_cons]
  dsimp only
  by_cases here : name = queue
  · rw [if_pos here, if_pos here]
  · rw [if_neg here, if_neg here]

/-- A queue from which nothing can be taken is empty. -/
theorem answersOf_eq_nil (h : takeFrom queue script = none) : answersOf queue script = [] := by
  induction script with
  | nil => rfl
  | cons entry rest ih =>
    obtain ⟨name, first⟩ := entry
    unfold takeFrom at h
    rw [answersOf_cons]
    by_cases here : name = queue
    · rw [if_pos here] at h
      cases h
    · rw [if_neg here] at h ⊢
      exact ih (Option.map_eq_none_iff.mp h)

/-- What is taken is the first answer of its queue, and the other queues stay as they are. -/
theorem answersOf_takeFrom (h : takeFrom queue script = some (a, left)) :
    answersOf queue script = a :: answersOf queue left
      ∧ ∀ other, other ≠ queue → answersOf other left = answersOf other script := by
  induction script generalizing left with
  | nil => cases h
  | cons entry rest ih =>
    obtain ⟨name, first⟩ := entry
    unfold takeFrom at h
    by_cases here : name = queue
    · rw [if_pos here] at h
      cases h
      refine ⟨?_, fun other ne => ?_⟩
      · rw [answersOf_cons, if_pos here]
      · rw [answersOf_cons, if_neg fun same => ne (same.symm.trans here)]
    · rw [if_neg here] at h
      obtain ⟨⟨b, kept⟩, taken, same⟩ := Option.map_eq_some_iff.mp h
      cases same
      obtain ⟨mine, others⟩ := ih taken
      refine ⟨?_, fun other ne => ?_⟩
      · rw [answersOf_cons, if_neg here, answersOf_cons, if_neg here]
        exact mine
      · rw [answersOf_cons, answersOf_cons, others other ne]

variable (r : Remote) (sender : Sender) (operation : String)

/-- A request gets the first answer that its queue has left. -/
theorem answer_fst : (r.answer sender operation).1
    = (r.answers (r.queueOf sender operation)).head?.getD .standard := by
  unfold answer answers
  rcases taken : takeFrom (r.queueOf sender operation) r.script with _ | ⟨a, left⟩
  · rw [answersOf_eq_nil taken]
    rfl
  · rw [(answersOf_takeFrom taken).1]
    rfl

/-- An answer that is given does not move the queues. -/
theorem queueOf_answer : (r.answer sender operation).2.queueOf = r.queueOf := by
  unfold answer
  split <;> rfl

/-- A queue that has answered is left with the rest of its answers. -/
theorem answers_answer : (r.answer sender operation).2.answers (r.queueOf sender operation)
    = (r.answers (r.queueOf sender operation)).tail := by
  unfold answer answers
  rcases taken : takeFrom (r.queueOf sender operation) r.script with _ | ⟨a, left⟩
  · dsimp only
    rw [answersOf_eq_nil taken]
    rfl
  · rw [(answersOf_takeFrom taken).1]
    rfl

/-- The other queues keep their answers. -/
theorem answers_answer_of_ne {other : String} (ne : other ≠ r.queueOf sender operation) :
    (r.answer sender operation).2.answers other = r.answers other := by
  unfold answer answers
  rcases taken : takeFrom (r.queueOf sender operation) r.script with _ | ⟨a, left⟩
  · rfl
  · exact (answersOf_takeFrom taken).2 other ne

end Remote

/-! ## Worlds beside each other -/

/-- The limits of something that begins later. -/
def Limits.later (limits : Limits) (span : Nat) : Limits :=
  ⟨limits.deadline + span, limits.closing.map (Prod.map id (· + span))⟩

/-- From where two worlds are looked at. -/
structure Vantage where
  /-- The number of the handle. -/
  number : Nat
  /-- How much later it is in the first world. -/
  span : Nat
  /-- What had been posted in the first world. -/
  first : List Request
  /-- What had been posted in the second one. -/
  second : List Request

/-- Two worlds look the same to a handle, and the same requests have been posted in them. -/
structure Vantage.Beside (a : Vantage) (w v : World) : Prop where
  /-- It is later in the first one. -/
  now : w.now = v.now + a.span
  /-- The same clients have been closed. -/
  closed : w.closed = v.closed
  /-- The close signal of the handle has fired in both of them, or in none. -/
  fired : w.hasFired a.number = v.hasFired a.number
  /-- The queues are the same. -/
  queueOf : w.remote.queueOf = v.remote.queueOf
  /-- The queues of the handle have the same answers left. -/
  answers : ∀ operation, w.remote.answers (v.remote.queueOf (some a.number) operation)
    = v.remote.answers (v.remote.queueOf (some a.number) operation)
  /-- The same has been posted. -/
  posted : ∃ more, w.posted = a.first ++ more ∧ v.posted = a.second ++ more

namespace Vantage

variable {a : Vantage} {w v : World}

/-- Worlds beside each other have the same clients closed. -/
theorem Beside.isClosed (beside : a.Beside w v) (client : Nat) :
    w.isClosed client = v.isClosed client := by
  unfold World.isClosed
  rw [beside.closed]

/-- Time passes in both worlds. -/
theorem Beside.wait (beside : a.Beside w v) {time time' : Nat} (same : time = time' + a.span) :
    a.Beside { w with now := time } { v with now := time' } :=
  { beside with now := same }

/-- The close signal of the handle fires in both worlds. -/
theorem Beside.fire (beside : a.Beside w v) :
    a.Beside (w.fire a.number) (v.fire a.number) := by
  have still := w.still_fire a.number
  have still' := v.still_fire a.number
  obtain ⟨more, posted, posted'⟩ := beside.posted
  refine ⟨?_, ?_, ?_, ?_, ?_, more, still.posted.trans posted, still'.posted.trans posted'⟩
  · rw [still.now, still'.now, beside.now]
  · rw [(w.fire_apart _).2.1, (v.fire_apart _).2.1, beside.closed]
  · rw [World.hasFired_fire, World.hasFired_fire]
  · rw [still.remote, still'.remote, beside.queueOf]
  · rw [still.remote, still'.remote]
    exact beside.answers

/-- The handle posts a request in both worlds, and time passes. -/
theorem Beside.post (beside : a.Beside w v) (request : Request) {time time' : Nat}
    (same : time = time' + a.span) :
    let operation := request.envelope.operation
    (w.remote.answer (some a.number) operation).1 = (v.remote.answer (some a.number) operation).1
      ∧ a.Beside { w with remote := (w.remote.answer (some a.number) operation).2,
                          posted := w.posted ++ [request], now := time }
          { v with remote := (v.remote.answer (some a.number) operation).2,
                   posted := v.posted ++ [request], now := time' } := by
  intro operation
  obtain ⟨more, posted, posted'⟩ := beside.posted
  have mine := beside.answers operation
  refine ⟨?_, same, beside.closed, beside.fired, ?_, ?_, more ++ [request], ?_, ?_⟩
  · rw [Remote.answer_fst, Remote.answer_fst, beside.queueOf, mine]
  · rw [Remote.queueOf_answer, Remote.queueOf_answer, beside.queueOf]
  · intro other
    dsimp only
    rw [Remote.queueOf_answer]
    by_cases here : v.remote.queueOf (some a.number) other
        = v.remote.queueOf (some a.number) operation
    · rw [here, Remote.answers_answer, ← mine, ← beside.queueOf, Remote.answers_answer]
    · rw [Remote.answers_answer_of_ne _ _ _ here, Remote.answers_answer_of_ne]
      · exact beside.answers other
      · rw [beside.queueOf]
        exact here
  · rw [← List.append_assoc, ← posted]
  · rw [← List.append_assoc, ← posted']

end Vantage

/-! ## Computations that are alike -/

/-- A computation has the same result in worlds beside each other, and leaves them so. -/
def Vantage.Alike {β : Type} (a : Vantage) (t : Limits → World → β × World) : Prop :=
  ∀ limits w v, a.Beside w v → ∃ r w' v', t (limits.later a.span) w = (r, w')
    ∧ t limits v = (r, v') ∧ a.Beside w' v'

/-- The same of the use of a handle. -/
def Vantage.AlikeUse {α σ : Type} (a : Vantage) (t : Limits → World → α × σ × World) : Prop :=
  ∀ limits w v, a.Beside w v → ∃ r s w' v', t (limits.later a.span) w = (r, s, w')
    ∧ t limits v = (r, s, v') ∧ a.Beside w' v'

namespace Action

variable {α β : Type} {a : Vantage}

/-- What is there already is alike. -/
theorem alike_pure (r : α) : a.Alike (pure r : Action α) :=
  fun _ w v beside => ⟨_, w, v, rfl, rfl, beside⟩

/-- A failure is alike. -/
theorem alike_fail (e : Error) : a.Alike (fail e : Action α) :=
  fun _ w v beside => ⟨_, w, v, rfl, rfl, beside⟩

/-- What is known from the start is alike. -/
theorem alike_ofExcept (r : Except Error α) : a.Alike (ofExcept r) := by
  rcases r with e | r
  · exact alike_fail e
  · exact alike_pure r

/-- Looking is alike where worlds beside each other show the same. -/
theorem alike_look {f : World → α} (same : ∀ w v, a.Beside w v → f w = f v) :
    a.Alike (look f) :=
  fun _ w v beside => ⟨_, w, v, rfl, by rw [same w v beside]; rfl, beside⟩

/-- A handle that fires its close signal does so in both worlds. -/
theorem alike_fire : a.Alike (change (·.fire a.number)) :=
  fun _ _ _ beside => ⟨_, _, _, rfl, rfl, beside.fire⟩

/-- Computations that are alike are so one after the other. -/
theorem alike_bind {t : Action α} {f : α → Action β} (first : a.Alike t)
    (next : ∀ r, a.Alike (f r)) : a.Alike (t >>= f) := by
  intro limits w v beside
  obtain ⟨r, w', v', hw, hv, beside'⟩ := first limits w v beside
  rw [bind_eq_resumed, bind_eq_resumed, hw, hv]
  rcases r with h | r
  · exact ⟨_, w', v', rfl, rfl, beside'⟩
  · exact next r limits w' v' beside'

/-- A post takes its answer from the queue of the handle, which is the same in both worlds. -/
theorem alike_post (request : Request) : a.Alike (post (some a.number) request) := by
  intro limits w v beside
  have late : max w.now (limits.deadline + a.span) = max v.now limits.deadline + a.span := by
    rw [beside.now, Nat.add_max_add_right]
  unfold post Limits.later
  dsimp only
  rw [(beside.post request late).1]
  rcases (v.remote.answer (some a.number) request.envelope.operation).1.content with _ | content
  · exact ⟨_, _, _, rfl, rfl, (beside.post request late).2⟩
  · generalize (v.remote.answer (some a.number) request.envelope.operation).1.delay = delay
    have arrival : w.now + delay = v.now + delay + a.span := by
      rw [beside.now]
      omega
    dsimp only
    rw [late, arrival]
    by_cases inTime : v.now + delay ≤ max v.now limits.deadline
    · rw [if_pos inTime, if_pos (Nat.add_le_add_right inTime _)]
      exact ⟨_, _, _, rfl, rfl, (beside.post request rfl).2⟩
    · rw [if_neg inTime, if_neg fun h => inTime (Nat.le_of_add_le_add_right h)]
      exact ⟨_, _, _, rfl, rfl, (beside.post request rfl).2⟩

/-- A limit on how long something may take moves with the clock. -/
theorem alike_within {t : Action α} (alike : a.Alike t) (operation : String) (span : Nat) :
    a.Alike (within operation span t) := by
  intro limits w v beside
  have stop : w.now + span = v.now + span + a.span := by
    rw [beside.now]
    omega
  have shifted : ({ limits.later a.span with deadline := w.now + span } : Limits)
      = ({ limits with deadline := v.now + span } : Limits).later a.span := by
    rw [stop]
    rfl
  have deadline : (limits.later a.span).deadline = limits.deadline + a.span := rfl
  unfold within
  dsimp only
  rw [shifted, deadline, stop]
  by_cases bounded : v.now + span ≤ limits.deadline
  · rw [if_pos bounded, if_pos (Nat.add_le_add_right bounded _)]
    obtain ⟨r, w', v', hw, hv, beside'⟩ := alike _ w v beside
    rw [hw, hv]
    rcases r with (e | _) | r <;> exact ⟨_, w', v', rfl, rfl, beside'⟩
  · rw [if_neg bounded, if_neg fun h => bounded (Nat.le_of_add_le_add_right h)]
    exact alike limits w v beside

/-- A computation that is given up at a moment that the limits tell. -/
theorem alike_interruptedAt {t : Action α} (alike : a.Alike t) (moment : Limits → Option Nat)
    (later : ∀ limits, moment (limits.later a.span) = (moment limits).map (· + a.span)) :
    a.Alike fun limits w => interruptedAt (moment limits) t limits w := by
  intro limits w v beside
  dsimp only
  rw [later]
  unfold interruptedAt
  rcases moment limits with _ | moment
  · obtain ⟨r, w', v', hw, hv, beside'⟩ := alike limits w v beside
    exact ⟨r.map some, w', v', by rw [Option.map_none, hw]; rfl, by rw [hv]; rfl, beside'⟩
  · have stop : max w.now (moment + a.span) = max v.now moment + a.span := by
      rw [beside.now, Nat.add_max_add_right]
    have shifted : ({ limits.later a.span with deadline := max w.now (moment + a.span) } : Limits)
        = ({ limits with deadline := max v.now moment } : Limits).later a.span := by
      rw [stop]
      rfl
    have deadline : (limits.later a.span).deadline = limits.deadline + a.span := rfl
    rw [Option.map_some]
    dsimp only
    rw [shifted, deadline, stop]
    by_cases bounded : max v.now moment ≤ limits.deadline
    · rw [if_pos bounded, if_pos (Nat.add_le_add_right bounded _)]
      obtain ⟨r, w', v', hw, hv, beside'⟩ := alike _ w v beside
      rw [hw, hv]
      rcases r with (e | _) | r <;> exact ⟨_, w', v', rfl, rfl, beside'⟩
    · rw [if_neg bounded, if_neg fun h => bounded (Nat.le_of_add_le_add_right h)]
      obtain ⟨r, w', v', hw, hv, beside'⟩ := alike limits w v beside
      rw [hw, hv]
      exact ⟨r.map some, w', v', rfl, rfl, beside'⟩

end Action

namespace Connection

variable {a : Vantage}

/-- A call that is sent in the name of the handle is alike. -/
theorem dispatch_alike (c : Connection) (call : Call) (route : Route) :
    a.Alike (c.dispatch (some a.number) call route) := by
  intro limits w v beside
  unfold dispatch
  rw [beside.isClosed]
  by_cases closed : v.isClosed c.client = true
  · rw [if_pos closed, if_pos closed]
    exact ⟨_, w, v, rfl, rfl, beside⟩
  · rw [if_neg closed, if_neg closed]
    rcases Envelope.ofCall c.codec call route with e | envelope
    · exact ⟨_, w, v, rfl, rfl, beside⟩
    · obtain ⟨r, w', v', hw, hv, beside'⟩ :=
        Action.alike_post (c.request envelope) limits w v beside
      dsimp only
      rw [hw, hv]
      rcases r with h | content
      · exact ⟨_, w', v', rfl, rfl, beside'⟩
      · dsimp only
        cases received c.codec call.name content <;> exact ⟨_, w', v', rfl, rfl, beside'⟩

/-- A call that has a limited time to be answered is alike. -/
theorem dispatchWithin_alike (c : Connection) (span : Nat) (call : Call) (route : Route) :
    a.Alike (c.dispatchWithin span (some a.number) call route) :=
  Action.alike_within (c.dispatch_alike call route) call.name span

end Connection

/-! ## Loops that are alike -/

section loops

variable {α β σ : Type} {a : Vantage} {owned : σ → Prop} {turn : β → σ → Turn α}

/-- A loop that is over at once is alike. -/
theorem IsOver.alike {own : σ → Prop} {t : Limits → World → α × σ × World} (ended : IsOver own t) :
    a.AlikeUse t := by
  obtain ⟨r, s, _, same⟩ := ended
  intro limits w v beside
  exact ⟨r, s, w, v, same _ w, same _ v, beside⟩

/-- Going round is alike if that is so from the second time on. -/
theorem unrolled_alike {body : Limits → World → β × σ × World}
    {t : σ → Limits → World → α × σ × World} {limits : Limits} {w v : World}
    (alike : a.AlikeUse body) (beside : a.Beside w v)
    (next : ∀ b s w' v' f, body limits v = (b, s, v') → turn b s = .again f → a.Beside w' v' →
      ∃ r s' w'' v'', t s (limits.later a.span) w' = (r, s', w'') ∧ t s limits v' = (r, s', v'')
        ∧ a.Beside w'' v'') :
    ∃ r s w' v', unrolled turn body t (limits.later a.span) w = (r, s, w')
      ∧ unrolled turn body t limits v = (r, s, v') ∧ a.Beside w' v' := by
  obtain ⟨b, s, w', v', hw, hv, beside'⟩ := alike limits w v beside
  unfold unrolled
  rw [hw, hv]
  dsimp only
  rcases again : turn b s with r | f
  · exact ⟨r, s, w', v', rfl, rfl, beside'⟩
  · obtain ⟨r, s', w'', v'', hw', hv', beside''⟩ := next b s w' v' f hv again beside'
    dsimp only
    rw [hw', hv']
    exact ⟨f r, s', w'', v'', rfl, rfl, beside''⟩

/-- A loop is alike if its body is. -/
theorem alike_of_rounds {body : σ → Limits → World → β × σ × World}
    {t : σ → Limits → World → α × σ × World} {rank : σ → World → Nat × Nat}
    (alike : ∀ s, owned s → a.AlikeUse (body s))
    (keeps : ∀ s limits w, owned s → owned (body s limits w).2.1)
    (rounds : ∀ s, owned s → (∃ own, IsOver own (t s)) ∨ Round turn (body s) t rank s) (s : σ)
    (mine : owned s) : a.AlikeUse (t s) := by
  have wf : WellFounded (Prod.Lex (· < ·) (· < ·) : Nat × Nat → Nat × Nat → Prop) :=
    WellFoundedRelation.wf
  intro limits w v beside
  -- the induction is on how far the loop is from its end in the second world
  induction hr : rank s v using wf.induction generalizing s w v with
  | _ r ih =>
    subst hr
    rcases rounds s mine with ⟨own, ended⟩ | round
    · exact ended.alike limits w v beside
    · rw [round.unrolls, round.unrolls]
      refine unrolled_alike (alike s mine) beside fun b s' w' v' f hb again beside' => ?_
      have mine' : owned s' := by
        have := keeps s limits v mine
        rwa [hb] at this
      exact ih _ (round.falls limits v b s' v' f hb again) s' mine' w' v' beside' rfl

end loops

end RemoteDriver
