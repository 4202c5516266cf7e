import RemoteDriver.Proofs.Isolation.Services

/-!
# What handles leave alone

A cursor or a change stream is answered from its own queues, fires its own close signal, and closes
no client.  So whatever is asked of it, another handle sees no more of it than that time has passed
and that requests have been posted (`World.Spares`), if the remote side answers different handles
from different queues.

For that other handle, a world stays beside the one in which nothing was asked (`Beside.spared`).
-/

namespace RemoteDriver

open World (Sends)

/-! ## Worlds -/

namespace World

/-- Between two worlds nothing happened that the handle with a number takes notice of. -/
structure Spares (n : Nat) (w w' : World) : Prop where
  /-- Time may have passed. -/
  now_le : w.now ≤ w'.now
  /-- No client was closed. -/
  closed : w'.closed = w.closed
  /-- Its close signal has not fired. -/
  fired : w'.hasFired n = w.hasFired n
  /-- The queues are the same. -/
  queueOf : w'.remote.queueOf = w.remote.queueOf
  /-- Its own queues have the same answers left. -/
  answers : ∀ operation, w'.remote.answers (w.remote.queueOf (some n) operation)
    = w.remote.answers (w.remote.queueOf (some n) operation)

variable {n m : Nat} {w w' w'' : World}

/-- A world that stays as it is spares every handle. -/
theorem Spares.refl (n : Nat) (w : World) : w.Spares n w :=
  ⟨Nat.le_refl _, rfl, rfl, rfl, fun _ => rfl⟩

/-- What is spared twice is spared over both stretches. -/
theorem Spares.trans (first : w.Spares n w') (second : w'.Spares n w'') : w.Spares n w'' := by
  refine ⟨Nat.le_trans first.now_le second.now_le, second.closed.trans first.closed,
    second.fired.trans first.fired, second.queueOf.trans first.queueOf, fun operation => ?_⟩
  rw [← first.answers, ← first.queueOf]
  exact second.answers operation

/-- Time passes. -/
theorem spares_wait (n : Nat) {time : Nat} (le : w.now ≤ time) :
    w.Spares n { w with now := time } :=
  ⟨le, rfl, rfl, rfl, fun _ => rfl⟩

/-- A close signal that fires leaves the others as they are. -/
theorem hasFired_fire_of_ne (w : World) (ne : m ≠ n) : (w.fire m).hasFired n = w.hasFired n := by
  unfold fire
  split
  · rfl
  · rw [hasFired, hasFired, Bool.eq_iff_iff, List.contains_iff_mem, List.contains_iff_mem]
    simp [ne.symm]

/-- The close signal of another handle fires. -/
theorem spares_fire (w : World) (ne : m ≠ n) : w.Spares n (w.fire m) := by
  have still := w.still_fire m
  refine ⟨Nat.le_of_eq still.now.symm, (w.fire_apart m).2.1, w.hasFired_fire_of_ne ne, ?_, ?_⟩
  · rw [still.remote]
  · rw [still.remote]
    exact fun _ => rfl

/-- Another handle posts a request. -/
theorem spares_post (separates : w.remote.Separates) (ne : m ≠ n) (request : Request)
    (limits : Limits) : w.Spares n (Action.post (some m) request limits w).2 := by
  have answered : w.Spares n
      { w with remote := (w.remote.answer (some m) request.envelope.operation).2,
               posted := w.posted ++ [request] } := by
    refine ⟨Nat.le_refl _, rfl, rfl, Remote.queueOf_answer _ _ _, fun operation => ?_⟩
    exact w.remote.answers_answer_of_ne _ _ fun same => ne (separates n m _ _ same).symm
  unfold Action.post
  dsimp only
  split
  · exact answered.trans (spares_wait n (Nat.le_max_left _ _))
  · split
    · exact answered.trans (spares_wait n (Nat.le_add_right _ _))
    · exact answered.trans (spares_wait n (Nat.le_max_left _ _))

/-- The remote side still answers from different queues. -/
theorem Spares.separates (spares : w.Spares n w') (separates : w.remote.Separates) :
    w'.remote.Separates := separates.of_queueOf spares.queueOf

/-- Another handle has exchanges. -/
theorem Sends.spares {deadline : Nat → Nat} {es : List Exchange}
    (sends : Sends (some m) deadline w es w') (separates : w.remote.Separates) (ne : m ≠ n) :
    w.Spares n w' := by
  -- a post needs separate queues, and leaves them separate for the next one
  refine sends.of_posts (R := fun w w' => w.remote.Separates → w.Spares n w')
    (fun w _ => .refl n w) (fun w w' w'' first second separates => ?_)
    (fun request limits w separates => spares_post separates ne request limits) separates
  have spares := first separates
  exact spares.trans (second (spares.separates separates))

end World

open World (Spares)

namespace Vantage

variable {a : Vantage} {w w' v : World}

/-- What was posted before need not be looked at any more. -/
theorem Beside.rebased (beside : a.Beside w v) :
    (Vantage.mk a.number a.span w.posted v.posted).Beside w v :=
  { beside with posted := ⟨[], (List.append_nil _).symm, (List.append_nil _).symm⟩ }

/-- What others do in one of two worlds leaves it beside the other one. -/
theorem Beside.spared (beside : a.Beside w v) (spares : w.Spares a.number w') :
    ∃ span, (Vantage.mk a.number span w'.posted v.posted).Beside w' v := by
  have le : v.now ≤ w'.now := by
    refine Nat.le_trans ?_ spares.now_le
    rw [beside.now]
    exact Nat.le_add_right _ _
  -- the clocks are now apart by as much again as the others have waited
  refine ⟨w'.now - v.now, ?_, spares.closed.trans beside.closed, spares.fired.trans beside.fired,
    spares.queueOf.trans beside.queueOf, fun operation => ?_,
    ⟨[], (List.append_nil _).symm, (List.append_nil _).symm⟩⟩
  · exact (Nat.add_sub_cancel' le).symm
  · have same := spares.answers operation
    rw [beside.queueOf] at same
    exact same.trans (beside.answers operation)

end Vantage

/-! ## Computations -/

namespace Action

variable {α β : Type} {n : Nat}

/-- A computation that the handle with a number takes no notice of. -/
def Sparing (n : Nat) (t : Action α) : Prop :=
  ∀ limits (w : World), w.remote.Separates → w.Spares n (t limits w).2

/-- What is there already spares every handle. -/
theorem sparing_pure (r : α) : (pure r : Action α).Sparing n := fun _ w _ => .refl n w

/-- Computations that spare a handle spare it one after the other. -/
theorem sparing_bind {t : Action α} {f : α → Action β} (first : t.Sparing n)
    (next : ∀ r, (f r).Sparing n) : (t >>= f).Sparing n := by
  intro limits w separates
  have spares := first limits w separates
  rw [bind_eq_resumed]
  rcases ran : t limits w with ⟨_ | r, w'⟩ <;> rw [ran] at spares
  · exact spares
  · exact spares.trans (next r limits w' (spares.separates separates))

end Action

/-- A call on one handle is nothing to another one. -/
theorem Gateway.forward_sparing {g : Gateway} {n m : Nat} (mine : g.sender = some m) (ne : m ≠ n)
    (call : Call) : (g.forward call.name call.args call.kwargs).Sparing n := by
  intro limits w separates
  rcases g.forward_refused_or_sent call limits w with ⟨message, refused⟩ | ⟨e, w', _, sends, sent⟩
  · rw [refused]
    exact .refl n w
  · rw [mine] at sends
    rw [sent]
    exact sends.spares separates ne

/-- What is made of a reply may take a number, and does nothing else. -/
theorem Outcome.ofReply_sparing (g : Gateway) (reply : Reply) (n : Nat) :
    (ofReply g reply).Sparing n := by
  intro limits w _
  cases reply with
  | value => exact .refl n w
  | cursor | stream => exact ⟨Nat.le_refl _, rfl, rfl, rfl, fun _ => rfl⟩

/-! ## Commands -/

namespace Handle

open RemoteDriver.Action (sparing_bind sparing_pure)

variable {h : Handle} {command : Command} {service : Service} {n m : Nat} {w : World}

/-- What all handles can do spares the other ones. -/
theorem common_sparing {g : Gateway} {t : Action Result} (mine : g.sender = some m)
    (common : common? g command = some t) (ne : m ≠ n) : t.Sparing n := by
  cases command <;> cases common
  case route | surface => exact sparing_pure _
  case forward call =>
    exact sparing_bind (Gateway.forward_sparing mine ne call) fun _ => sparing_pure _
  case forwardOutcome call into =>
    refine sparing_bind ?_ fun _ => sparing_pure _
    exact sparing_bind (Gateway.forward_sparing mine ne call) fun reply =>
      Outcome.ofReply_sparing g reply n

/-- Whatever is asked of a handle with a state of its own, other handles take no notice. -/
theorem service_spares (mine : h.number? = some m) (known : h.service? command = some service)
    (separates : w.remote.Separates) (ne : m ≠ n) (limits : Limits) :
    w.Spares n (service limits w).2.2 := by
  unfold service? at known
  split at known
  · next t common =>
    cases known
    obtain ⟨g, operates, common⟩ := Option.bind_eq_some_iff.mp common
    have sender := (sender_of_gateway? operates).trans mine
    exact common_sparing sender common ne limits w separates
  · cases h with
    | cursor c =>
      cases mine
      obtain ⟨_, ⟨es, sends, _⟩, _⟩ := c.own_pursues limits w known
      exact sends.spares separates ne
    | changeStream s =>
      cases mine
      obtain ⟨_, ⟨v, es, begun, sends, _⟩, _⟩ := s.own_attends limits w known
      rcases begun with rfl | rfl
      · exact sends.spares separates ne
      · have fired := w.spares_fire ne
        exact fired.trans (sends.spares (fired.separates separates) ne)
    | closeSignal subscription =>
      cases mine
      obtain ⟨t, ht, rfl⟩ := Option.map_eq_some_iff.mp known
      cases command <;> cases ht
      · exact w.spares_fire ne
      · exact .refl n w
    | client | database | collection => cases mine

/-- A reply as it came is no handle. -/
theorem handle?_of_reply {t : Action Reply} {limits : Limits} {r : Result}
    (told : ((do return .reply (← t) : Action Result) limits w).1 = .ok r) : r.handle? = none := by
  rw [Action.bind_eq_resumed] at told
  rcases ran : t limits w with ⟨_ | _, _⟩ <;> rw [ran] at told <;> cases told
  rfl

/-- A handle with a state of its own brings its close signal, unless it opens another one. -/
theorem number?_of_brought (mine : h.number? = some m) (known : h.service? command = some service)
    (own : ¬ command.OpensHandles) {limits : Limits} {r : Result} {h' : Handle}
    (told : (service limits w).1 = .ok r) (brings : r.handle? = some h') : h'.number? = some m := by
  unfold service? at known
  split at known
  · next t common =>
    cases known
    obtain ⟨g, operates, common⟩ := Option.bind_eq_some_iff.mp common
    cases command <;> cases common
    · cases told
      cases brings
    · cases told
      cases brings
    · rw [handle?_of_reply told] at brings
      cases brings
    · exact absurd trivial own
  · cases h with
    | cursor c =>
      obtain ⟨_, _, _, plain⟩ := c.own_pursues limits w known
      rw [plain r told] at brings
      cases brings
    | changeStream s =>
      obtain ⟨_, _, _, signal⟩ := s.own_attends limits w known
      rw [signal r h' told brings]
      exact mine
    | closeSignal subscription =>
      obtain ⟨t, ht, rfl⟩ := Option.map_eq_some_iff.mp known
      cases command <;> cases ht <;> cases told <;> cases brings
    | client | database | collection => cases mine

end Handle

/-! ## Queues -/

namespace World

variable {w w' : World} {sender : Sender} {deadline : Nat → Nat} {es : List Exchange}

/-- Exchanges take answers, and leave the queues what they are. -/
theorem Sends.queueOf (sends : Sends sender deadline w es w') :
    w'.remote.queueOf = w.remote.queueOf := by
  refine sends.of_posts (R := fun w w' => w'.remote.queueOf = w.remote.queueOf) (fun _ => rfl)
    (fun _ _ _ first second => second.trans first) fun request limits w => ?_
  have answered := w.remote.queueOf_answer sender request.envelope.operation
  unfold Action.post
  dsimp only
  split
  · exact answered
  · split <;> exact answered

/-- Exchanges do not move the queues of the remote side. -/
theorem Had.queueOf (had : Had sender deadline w es w') :
    w'.remote.queueOf = w.remote.queueOf := by
  obtain ⟨v, sends, still⟩ := had
  rw [still.remote, sends.queueOf]

end World

/-- Whatever is asked of whatever handle, the queues stay what they are. -/
theorem Handle.service_queueOf {h : Handle} {command : Command} {service : Service}
    (known : h.service? command = some service) (limits : Limits) (w : World) :
    (service limits w).2.2.remote.queueOf = w.remote.queueOf := by
  unfold service? at known
  split at known
  · next t common =>
    cases known
    obtain ⟨g, _, common⟩ := Option.bind_eq_some_iff.mp common
    obtain ⟨es, had, _⟩ := (g.common_undertakes common).ends limits w
    exact had.queueOf
  · obtain ⟨es, converses⟩ := own_converses known limits w
    exact converses.had.queueOf

end RemoteDriver
