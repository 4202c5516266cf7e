import RemoteDriver.Proofs.Closing.Comparison

/-!
# Loops and closed clients

Cursors and change streams go round in loops: a body is run, and what it brings either ends the
loop or makes it go round once more.  A loop does not know about clients; if its body is gated by
one, and if misuse ends the loop, then the loop is gated by that client (`gated_of_rounds`).
-/

namespace RemoteDriver

variable {α β σ : Type}

/-- The result of using a handle, with what the handle has become. -/
def paired (r : α × σ × World) : (α × σ) × World := ((r.1, r.2.1), r.2.2)

/-- The use of a handle, which may change it, is gated by a client. -/
def GatedUse (client : Nat) (error? : α → Option Error) (owned : σ → Prop)
    (t : Limits → World → α × σ × World) : Prop :=
  Gated client (fun b : α × σ => error? b.1) (fun b => owned b.2)
    fun limits w => paired (t limits w)

/-- What a computation brings is a result and tells what becomes of the handle. -/
theorem GatedUse.ofAction {client : Nat} {allowed : β → Prop} {error'? : α → Option Error}
    {owned : σ → Prop} {t : Action β} (gated : t.Gated client allowed)
    {f : Except Halt β → α × σ} (own : ∀ r, owned (f r).2)
    (keeps : ∀ r e, failure? r = some e → error'? (f r).1 = some e) :
    GatedUse client error'? owned
      fun limits w => ((f (t limits w).1).1, (f (t limits w).1).2, (t limits w).2) := by
  refine ⟨gated.moves, ?_, fun limits w => own _⟩
  intro n limits w shut
  exact (gated.compares n limits w shut).map (f := f) fun r e failed _ => keeps r e failed

/-- The result of a use may be put into other words, and what becomes of the handle too. -/
theorem GatedUse.map {τ : Type} {client : Nat} {error? : β → Option Error}
    {error'? : α → Option Error} {owned : σ → Prop} {owned' : τ → Prop}
    {t : Limits → World → β × σ × World} (gated : GatedUse client error? owned t)
    {f : β → α} {g : σ → τ} (keeps : ∀ b e, error? b = some e → error'? (f b) = some e)
    (own : ∀ s, owned s → owned' (g s)) :
    GatedUse client error'? owned'
      fun limits w => (f (t limits w).1, g (t limits w).2.1, (t limits w).2.2) := by
  refine ⟨gated.moves, ?_, fun limits w => own _ (gated.yields limits w)⟩
  intro n limits w shut
  refine (gated.compares n limits w shut).map (f := fun b : β × σ => (f b.1, g b.2)) ?_
  exact fun b e failed _ => keeps b.1 e failed

/-- The same where the handle is left as it is. -/
theorem GatedUse.reword {client : Nat} {owned : σ → Prop}
    {t : Limits → World → Except Halt β × σ × World} (gated : GatedUse client failure? owned t)
    (f : β → α) : GatedUse client failure? owned
      fun limits w => ((t limits w).1.map f, (t limits w).2.1, (t limits w).2.2) :=
  gated.map (g := id) (fun r _ failed => (failure?_map f r).trans failed) fun _ own => own

/-- A use that is decided by something that has nothing to do with clients that have been closed. -/
theorem GatedUse.ite {client : Nat} {error'? : α → Option Error} {owned : σ → Prop}
    {decides : World → Bool} {t t' : Limits → World → α × σ × World}
    (same : ∀ n w, decides (World.reopened w n) = decides w)
    (yes : GatedUse client error'? owned t) (no : GatedUse client error'? owned t') :
    GatedUse client error'? owned
      fun limits w => if decides w = true then t limits w else t' limits w := by
  constructor
  · intro limits w
    by_cases h : decides w = true
    · simp only [h, if_true]
      exact yes.moves limits w
    · simp only [h]
      exact no.moves limits w
  · intro n limits w shut
    simp only [same]
    by_cases h : decides w = true
    · simp only [h, if_true]
      exact yes.compares n limits w shut
    · simp only [h]
      exact no.compares n limits w shut
  · intro limits w
    by_cases h : decides w = true
    · simp only [h, if_true]
      exact yes.yields limits w
    · simp only [h]
      exact no.yields limits w

/-- Before a use a close signal may be fired. -/
theorem GatedUse.fire {client : Nat} {error'? : α → Option Error} {owned : σ → Prop}
    {t : Limits → World → α × σ × World} (gated : GatedUse client error'? owned t)
    (subscription : Nat) :
    GatedUse client error'? owned fun limits w => t limits (w.fire subscription) := by
  have moves (w : World) : Moves client w (w.fire subscription) := by
    obtain ⟨posted, closed, next⟩ := w.fire_apart subscription
    exact .of_eq posted closed next
  refine ⟨fun limits w => (moves w).trans (gated.moves limits _), ?_,
    fun limits w => gated.yields limits _⟩
  intro n limits w shut
  have h := gated.compares n limits (w.fire subscription) fun mine => (moves w).stays n (shut mine)
  rw [← World.fire_reopened] at h
  exact h.since (w.fire_apart subscription).1

/-- How a loop goes on after its body: it stops with a result, or it goes round once more, and
what that brings is put into other words. -/
inductive Turn (α : Type)
  /-- It stops. -/
  | stop (a : α)
  /-- It goes round once more. -/
  | again (f : α → α)

/-- The body of a loop and what follows; `t` is the loop itself. -/
def unrolled (turn : β → σ → Turn α) (body : Limits → World → β × σ × World)
    (t : σ → Limits → World → α × σ × World) : Limits → World → α × σ × World := fun limits w =>
  match body limits w with
  | (b, s, w) =>
    match turn b s with
    | .stop a => (a, s, w)
    | .again f =>
      match t s limits w with
      | (a, s, w) => (f a, s, w)

/-- What follows the body of a loop. -/
def followed (turn : β → σ → Turn α) (t : σ → Limits → World → α × σ × World) (limits : Limits)
    (b : β × σ) (w : World) : (α × σ) × World :=
  match turn b.1 b.2 with
  | .stop a => ((a, b.2), w)
  | .again f => ((f (t b.2 limits w).1, (t b.2 limits w).2.1), (t b.2 limits w).2.2)

/-- In a loop an error is passed on, and one of misuse is the last thing that happens. -/
structure Passes (error? : β → Option Error) (error'? : α → Option Error)
    (turn : β → σ → Turn α) : Prop where
  /-- Misuse ends the loop. -/
  ends : ∀ b s e, error? b = some e → e.kind = .usage →
    ∃ a, turn b s = .stop a ∧ error'? a = some e
  /-- Going round once more passes an error on. -/
  keeps : ∀ b s f a e, turn b s = .again f → error'? a = some e → error'? (f a) = some e

/-- A loop goes round with this body, and comes closer to its end each time that it does. -/
structure Round (turn : β → σ → Turn α) (body : Limits → World → β × σ × World)
    (t : σ → Limits → World → α × σ × World) (rank : σ → World → Nat × Nat) (s : σ) : Prop where
  /-- The loop is its body and what follows. -/
  unrolls : ∀ limits w, t s limits w = unrolled turn body t limits w
  /-- The next time there is less to do. -/
  falls : ∀ limits w b s' w' f, body limits w = (b, s', w') → turn b s' = .again f →
    Prod.Lex (· < ·) (· < ·) (rank s' w') (rank s w)

/-- A loop is over before its body is run. -/
def IsOver (owned : σ → Prop) (t : Limits → World → α × σ × World) : Prop :=
  ∃ a s, owned s ∧ ∀ limits w, t limits w = (a, s, w)

section unrolled

variable {client : Nat} {error? : β → Option Error} {error'? : α → Option Error}
  {owned : σ → Prop} {turn : β → σ → Turn α} {body : Limits → World → β × σ × World}
  {t : σ → Limits → World → α × σ × World} {limits : Limits} {w : World}

/-- A round of a loop is its body, and then what follows from it. -/
theorem paired_unrolled (turn : β → σ → Turn α) (body : Limits → World → β × σ × World)
    (t : σ → Limits → World → α × σ × World) (limits : Limits) (w : World) :
    paired (unrolled turn body t limits w)
      = followed turn t limits (paired (body limits w)).1 (paired (body limits w)).2 := by
  unfold unrolled followed paired
  rcases body limits w with ⟨b, s, w'⟩
  dsimp only
  rcases turn b s with a | f <;> rfl

/-- Going round keeps things in order if that is so from the second time on. -/
theorem unrolled_moves (gated : GatedUse client error? owned body)
    (next : ∀ b s w' f, body limits w = (b, s, w') → turn b s = .again f → owned s →
      Moves client w' (t s limits w').2.2 ∧ owned (t s limits w').2.1) :
    Moves client w (unrolled turn body t limits w).2.2
      ∧ owned (unrolled turn body t limits w).2.1 := by
  have moves : Moves client w (body limits w).2.2 := gated.moves limits w
  have own : owned (body limits w).2.1 := gated.yields limits w
  unfold unrolled
  rcases hb : body limits w with ⟨b, s, w'⟩
  rw [hb] at moves own
  dsimp only at moves own ⊢
  rcases ht : turn b s with a | f
  · exact ⟨moves, own⟩
  · have rest := next b s w' f hb ht own
    exact ⟨moves.trans rest.1, rest.2⟩

/-- Going round compares if that is so from the second time on. -/
theorem unrolled_compares (gated : GatedUse client error? owned body)
    (passes : Passes error? error'? turn)
    (moves : ∀ s limits w, owned s → Moves client w (t s limits w).2.2) {n : Nat}
    (shut : client = n → w.isClosed n = true)
    (next : ∀ b s w' f, body limits w = (b, s, w') → turn b s = .again f → owned s →
      (client = n → w'.isClosed n = true) →
      Compares n (client = n) (fun b : α × σ => error'? b.1) w' (paired (t s limits w'))
        (paired (t s limits (w'.reopened n)))) :
    Compares n (client = n) (fun b : α × σ => error'? b.1) w
      (paired (unrolled turn body t limits w))
      (paired (unrolled turn body t limits (w.reopened n))) := by
  rw [paired_unrolled, paired_unrolled]
  have first := gated.compares n limits w shut
  refine first.andThen ?_ ?_ ?_
  · have own : owned (body limits w).2.1 := gated.yields limits w
    have stays : client = n → (body limits w).2.2.isClosed n = true :=
      fun mine => (gated.moves limits w).stays n (shut mine)
    rcases hb : body limits w with ⟨b, s, w'⟩
    rw [hb] at own stays
    unfold followed paired
    dsimp only at own stays ⊢
    rcases ht : turn b s with a | f
    · exact .alike rfl fun _ => rfl
    · refine (next b s w' f hb ht own stays).map (f := fun b : α × σ => (f b.1, b.2)) ?_
      rintro ⟨a, s'⟩ e failed _
      exact passes.keeps b s f a e ht failed
  · rintro ⟨b, s⟩ e w' failed misuse
    obtain ⟨a, stops, told⟩ := passes.ends b s e failed misuse
    refine ⟨(a, s), told, ?_⟩
    unfold followed
    rw [stops]
  · have own : owned (paired (body limits (w.reopened n))).1.2 := gated.yields limits _
    generalize paired (body limits (w.reopened n)) = r at own ⊢
    obtain ⟨⟨b, s⟩, w'⟩ := r
    unfold followed
    dsimp only
    rcases turn b s with a | f
    · exact List.prefix_rfl
    · exact (moves s limits w' own).grows

/-- The same as one statement. -/
theorem gated_unrolled (gated : GatedUse client error? owned body)
    (passes : Passes error? error'? turn)
    (rest : ∀ s, owned s → GatedUse client error'? owned (t s)) :
    GatedUse client error'? owned (unrolled turn body t) := by
  have goes (limits : Limits) (w : World) :
      Moves client w (unrolled turn body t limits w).2.2
        ∧ owned (unrolled turn body t limits w).2.1 := by
    apply unrolled_moves gated
    intro b s w' f _ _ own
    exact ⟨(rest s own).moves limits w', (rest s own).yields limits w'⟩
  refine ⟨fun limits w => (goes limits w).1, ?_, fun limits w => (goes limits w).2⟩
  intro n limits w shut
  apply unrolled_compares gated passes (fun s limits w own => (rest s own).moves limits w) shut
  intro b s w' f _ _ own shut'
  exact (rest s own).compares n limits w' shut'

/-- A loop that is over at once reaches nobody. -/
theorem IsOver.gated {t : Limits → World → α × σ × World} (ended : IsOver owned t) :
    GatedUse client error'? owned t := by
  obtain ⟨a, s, own, same⟩ := ended
  constructor
  · intro limits w
    rw [same]
    exact .refl client w
  · intro n limits w _
    rw [same, same]
    exact .alike rfl fun _ => rfl
  · intro limits w
    rw [same]
    exact own

end unrolled

section loop

variable {client : Nat} {error? : β → Option Error} {error'? : α → Option Error}
  {owned : σ → Prop} {turn : β → σ → Turn α} {body : σ → Limits → World → β × σ × World}
  {t : σ → Limits → World → α × σ × World} {rank : σ → World → Nat × Nat}

/-- A loop is gated by the client that its body is gated by. -/
theorem gated_of_rounds (gated : ∀ s, owned s → GatedUse client error? owned (body s))
    (passes : Passes error? error'? turn)
    (rounds : ∀ s, owned s → IsOver owned (t s) ∨ Round turn (body s) t rank s)
    (s : σ) (own : owned s) : GatedUse client error'? owned (t s) := by
  have wf : WellFounded (Prod.Lex (· < ·) (· < ·) : Nat × Nat → Nat × Nat → Prop) :=
    WellFoundedRelation.wf
  -- Both inductions are on how far the loop is from its end in the world where the client has
  -- been closed.  Order comes first, since it is used of the other world too.
  have goes (limits : Limits) (s : σ) (w : World) (own : owned s) :
      Moves client w (t s limits w).2.2 ∧ owned (t s limits w).2.1 := by
    induction hr : rank s w using wf.induction generalizing s w with
    | _ r ih =>
      subst hr
      rcases rounds s own with ended | round
      · have gated' : GatedUse client error'? owned (t s) := ended.gated
        exact ⟨gated'.moves limits w, gated'.yields limits w⟩
      · rw [round.unrolls]
        apply unrolled_moves (gated s own)
        intro b s' w' f hb ht own'
        exact ih _ (round.falls limits w b s' w' f hb ht) s' w' own' rfl
  have compares (n : Nat) (limits : Limits) (s : σ) (w : World) (own : owned s)
      (shut : client = n → w.isClosed n = true) :
      Compares n (client = n) (fun b : α × σ => error'? b.1) w (paired (t s limits w))
        (paired (t s limits (w.reopened n))) := by
    induction hr : rank s w using wf.induction generalizing s w with
    | _ r ih =>
      subst hr
      rcases rounds s own with ended | round
      · exact ended.gated.compares n limits w shut
      · rw [round.unrolls, round.unrolls]
        refine unrolled_compares (gated s own) passes (fun s l w own => ?_) shut ?_
        · exact (goes l s w own).1
        · intro b s' w' f hb ht own' shut'
          exact ih _ (round.falls limits w b s' w' f hb ht) s' w' own' shut' rfl
  exact ⟨fun limits w => (goes limits s w own).1,
    fun n limits w shut => compares n limits s w own shut,
    fun limits w => (goes limits s w own).2⟩

end loop

end RemoteDriver
