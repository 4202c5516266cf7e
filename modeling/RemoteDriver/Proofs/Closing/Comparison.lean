import RemoteDriver.Proofs.Transcript

/-!
# Operations and closed clients

What becomes of an operation on a closed client is told by comparing two worlds: the one in which
the client has been closed, and the same world in which it has not (`World.reopened`).  Either the
operation never gets as far as a call, and then the two worlds make no difference to it; or the
closed client refuses the first call that the open one makes (`Compares`).

An operation is `Gated` by a client if this holds of it in every world, and if besides it leaves the
log and the closed clients in order (`Moves`).  A call is gated by the client of its connection
(`dispatch_gated`), and what is put together from gated operations is gated too (`Gated.bind`).
-/

namespace RemoteDriver

/-! ## A world with a client open again -/

namespace World

/-- The world as it is if a client has not been closed. -/
def reopened (w : World) (client : Nat) : World :=
  { w with closed := w.closed.filter fun m => decide (m ≠ client) }

variable (w : World) {n m : Nat}

/-- A client that is open again is not closed. -/
theorem isClosed_reopened_self (n : Nat) : (w.reopened n).isClosed n = false := by
  simp [isClosed, reopened]

/-- The other clients are closed, or not, as before. -/
theorem isClosed_reopened_of_ne (h : m ≠ n) : (w.reopened n).isClosed m = w.isClosed m := by
  rw [Bool.eq_iff_iff]
  simp [isClosed, reopened, h]

/-- A client that has been closed is closed. -/
theorem isClosed_close (n : Nat) : (w.close n).isClosed n = true := by
  unfold close
  by_cases closed : w.isClosed n = true
  · rw [if_pos closed]
    exact closed
  · rw [if_neg closed]
    simp [isClosed]

/-- Closing a client again changes nothing. -/
theorem close_of_isClosed (closed : w.isClosed n = true) : w.close n = w := if_pos closed

/-- Closing another client and opening this one again can be swapped. -/
theorem close_reopened (h : m ≠ n) : (w.reopened n).close m = (w.close m).reopened n := by
  unfold close
  rw [isClosed_reopened_of_ne w h]
  split
  · rfl
  · simp [reopened, h]

/-- Firing a close signal does not concern clients. -/
theorem fire_reopened (subscription n : Nat) :
    (w.reopened n).fire subscription = (w.fire subscription).reopened n := by
  have same : (w.reopened n).hasFired subscription = w.hasFired subscription := rfl
  unfold fire
  rw [same]
  split <;> rfl

/-- Firing a close signal leaves the log, the closed clients and the numbers as they are. -/
theorem fire_apart (subscription : Nat) : (w.fire subscription).posted = w.posted
    ∧ (w.fire subscription).closed = w.closed ∧ (w.fire subscription).next = w.next := by
  unfold fire
  split
  · exact ⟨rfl, rfl, rfl⟩
  · exact ⟨rfl, rfl, rfl⟩

end World

/-! ## What operations leave in order -/

/-- How the world moves while a handle of a client is used. -/
structure Moves (client : Nat) (w w' : World) : Prop where
  /-- The log only grows. -/
  grows : w.posted <+: w'.posted
  /-- What is closed stays closed. -/
  stays : ∀ m, w.isClosed m = true → w'.isClosed m = true
  /-- No other client is closed. -/
  closes : ∀ m, w'.isClosed m = true → w.isClosed m = true ∨ m = client
  /-- Numbers are given away only once. -/
  next_le : w.next ≤ w'.next

namespace Moves

variable {client : Nat} {w w' w'' : World}

/-- A world that stays as it is moves as it may. -/
theorem refl (client : Nat) (w : World) : Moves client w w :=
  ⟨List.prefix_rfl, fun _ h => h, fun _ h => .inl h, Nat.le_refl _⟩

/-- Two moves one after the other are one. -/
theorem trans (first : Moves client w w') (second : Moves client w' w'') :
    Moves client w w'' := by
  refine ⟨first.grows.trans second.grows, fun m h => second.stays m (first.stays m h), ?_,
    Nat.le_trans first.next_le second.next_le⟩
  intro m h
  rcases second.closes m h with h | h
  · exact first.closes m h
  · exact .inr h

/-- A world that differs in other things only. -/
theorem of_eq (posted : w'.posted = w.posted) (closed : w'.closed = w.closed)
    (next : w'.next = w.next) : Moves client w w' := by
  refine ⟨?_, ?_, ?_, Nat.le_of_eq next.symm⟩
  · exact posted ▸ List.prefix_rfl
  · intro m h
    rwa [World.isClosed, closed]
  · intro m h
    rw [World.isClosed, closed] at h
    exact .inl h

/-- A client is closed. -/
theorem close (client : Nat) (w : World) : Moves client w (w.close client) := by
  unfold World.close
  split
  · exact .refl client w
  · refine ⟨List.prefix_rfl, ?_, ?_, Nat.le_refl _⟩
    · intro m h
      simp only [World.isClosed, List.contains_iff_mem] at h ⊢
      exact List.mem_cons_of_mem _ h
    · intro m h
      simp only [World.isClosed, List.contains_iff_mem] at h ⊢
      rcases List.mem_cons.mp h with same | h
      · exact .inr same
      · exact .inl h

end Moves

/-! ## Comparing two runs -/

/-- The error of a result, if it failed. -/
def failure? {α : Type} : Except Halt α → Option Error
  | .error (.failed e) => some e
  | _ => none

/-- A failure is one in other words too. -/
theorem failure?_map {α β : Type} (f : α → β) (r : Except Halt α) :
    failure? (r.map f) = failure? r := by
  rcases r with (_ | _) | _ <;> rfl

section comparison

variable {β γ : Type}

/-- A run that got as far as a call of this operation: its first request was for it, or the call was
refused for an argument that cannot be sent. -/
def Reaches (error? : β → Option Error) (operation : String) (w : World) (r : β × World) : Prop :=
  (∃ request rest, r.2.posted = w.posted ++ request :: rest
      ∧ request.envelope.operation = operation)
    ∨ (r.2.posted = w.posted ∧ ∃ cause, error? r.1 = some (Envelope.refused operation cause))

/-- How a run in a world compares with the run `r'` of the same operation in the world in which the
client `n` is open.  If it is that client whose handle is used, `mine` holds. -/
inductive Compares (n : Nat) (mine : Prop) (error? : β → Option Error) (w : World)
    (r r' : β × World) : Prop
  /-- The client makes no difference, and if it is the one in use then nothing was posted. -/
  | alike (same : r' = (r.1, r.2.reopened n)) (quiet : mine → r.2.posted = w.posted)
  /-- The client in use refused the call that the other run got as far as. -/
  | gated (own : mine) (operation : String) (quiet : r.2.posted = w.posted)
      (told : error? r.1 = some (Connection.closedError operation))
      (reaches : Reaches error? operation w r')

variable {n : Nat} {mine : Prop} {error? : β → Option Error} {error'? : γ → Option Error}
  {w : World} {r r' : β × World}

/-- If another client is in use, it makes no difference which of them are closed. -/
theorem Compares.eq_of_not (h : Compares n mine error? w r r') (other : ¬ mine) :
    r' = (r.1, r.2.reopened n) := by
  cases h with
  | alike same _ => exact same
  | gated own => exact absurd own other

/-- Putting the result into other words changes nothing, as long as misuse stays misuse. -/
theorem Compares.map (h : Compares n mine error? w r r') {f : β → γ}
    (keeps : ∀ b e, error? b = some e → e.kind = .usage → error'? (f b) = some e) :
    Compares n mine error'? w (f r.1, r.2) (f r'.1, r'.2) := by
  cases h with
  | alike same quiet =>
    refine .alike ?_ quiet
    rw [same]
  | gated own operation quiet told reaches =>
    refine .gated own operation quiet (keeps _ _ told rfl) ?_
    rcases reaches with posted | ⟨still, cause, refused⟩
    · exact .inl posted
    · exact .inr ⟨still, cause, keeps _ _ refused rfl⟩

/-- Only the log counts of the world in which the runs began. -/
theorem Compares.since {v : World} (h : Compares n mine error? v r r')
    (same : v.posted = w.posted) : Compares n mine error? w r r' := by
  cases h with
  | alike same' quiet => exact .alike same' fun own => (quiet own).trans same
  | gated own operation quiet told reaches =>
    refine .gated own operation (quiet.trans same) told ?_
    unfold Reaches at reaches ⊢
    rw [same] at reaches
    exact reaches

/-- An operation and what follows from its result, where misuse ends it. -/
theorem Compares.andThen (first : Compares n mine error? w r r') {f : β → World → γ × World}
    (next : Compares n mine error'? r.2 (f r.1 r.2) (f r.1 (r.2.reopened n)))
    (ends : ∀ b e w, error? b = some e → e.kind = .usage →
      ∃ b', error'? b' = some e ∧ f b w = (b', w))
    (grows : r'.2.posted <+: (f r'.1 r'.2).2.posted) :
    Compares n mine error'? w (f r.1 r.2) (f r'.1 r'.2) := by
  cases first with
  | alike same quiet =>
    rw [same]
    cases next with
    | alike same' quiet' => exact .alike same' fun own => (quiet' own).trans (quiet own)
    | gated own operation quiet' told reaches =>
      exact (Compares.gated own operation quiet' told reaches).since (quiet own)
  | gated own operation quiet told reaches =>
    obtain ⟨b, told', ended⟩ := ends _ _ r.2 told rfl
    rw [ended]
    refine .gated own operation quiet told' ?_
    rcases reaches with ⟨request, rest, posted, named⟩ | ⟨still, cause, refused⟩
    · obtain ⟨more, longer⟩ := grows
      refine .inl ⟨request, rest ++ more, ?_, named⟩
      rw [← longer, posted, List.append_assoc, List.cons_append]
    · obtain ⟨b', refused', ended'⟩ := ends _ _ r'.2 refused rfl
      rw [ended']
      exact .inr ⟨still, cause, refused'⟩

end comparison

/-! ## Gated operations -/

/-- An operation that reaches the remote side through one client only, as its calls do, and whose
result holds nothing but what `owned` allows. -/
structure Gated {β : Type} (client : Nat) (error? : β → Option Error) (owned : β → Prop)
    (t : Limits → World → β × World) : Prop where
  /-- It leaves the log and the closed clients in order. -/
  moves : ∀ limits w, Moves client w (t limits w).2
  /-- It compares with itself in the world in which a client is open, be it another client or the
  one in use if that has been closed. -/
  compares : ∀ n limits w, (client = n → w.isClosed n = true) →
    Compares n (client = n) error? w (t limits w) (t limits (w.reopened n))
  /-- Its result is in order. -/
  yields : ∀ limits w, owned (t limits w).1

/-- The result of a computation holds nothing but what `owned` allows, if there is one. -/
def Yields {α : Type} (owned : α → Prop) (r : Except Halt α) : Prop := ∀ a, r = .ok a → owned a

namespace Action

variable {α β : Type} {client : Nat} {owned : α → Prop} {owned' : β → Prop}

/-- A computation that is gated by a client. -/
def Gated (client : Nat) (owned : α → Prop) (t : Action α) : Prop :=
  RemoteDriver.Gated client failure? (Yields owned) t

/-- A computation that does not look at the clients that have been closed, and that posts nothing
and closes nobody. -/
theorem Gated.of_apart {t : Action α} (posted : ∀ limits w, (t limits w).2.posted = w.posted)
    (closed : ∀ limits w, (t limits w).2.closed = w.closed)
    (next : ∀ limits w, w.next ≤ (t limits w).2.next)
    (same : ∀ n limits w, t limits (w.reopened n) = ((t limits w).1, (t limits w).2.reopened n))
    (yields : ∀ limits w, Yields owned (t limits w).1) : t.Gated client owned where
  moves limits w := by
    refine ⟨?_, ?_, ?_, next limits w⟩
    · exact posted limits w ▸ List.prefix_rfl
    · intro m h
      rwa [World.isClosed, closed]
    · intro m h
      rw [World.isClosed, closed] at h
      exact .inl h
  compares n limits w _ := .alike (same n limits w) fun _ => posted limits w
  yields := yields

/-- A computation that is over at once reaches nobody. -/
theorem gated_done {a : α} (h : owned a) : (done a).Gated client owned := by
  refine .of_apart (fun _ _ => rfl) (fun _ _ => rfl) (fun _ _ => Nat.le_refl _)
    (fun _ _ _ => rfl) ?_
  rintro _ _ _ ⟨rfl⟩
  exact h

/-- What is there already is gated by any client. -/
theorem gated_pure {a : α} (h : owned a) : (pure a : Action α).Gated client owned := gated_done h

/-- A failure on the spot is gated by any client. -/
theorem gated_fail (e : Error) : (fail e : Action α).Gated client owned := by
  refine .of_apart (fun _ _ => rfl) (fun _ _ => rfl) (fun _ _ => Nat.le_refl _)
    (fun _ _ _ => rfl) ?_
  rintro _ _ _ ⟨⟩

/-- What is known from the start is gated by any client. -/
theorem gated_ofExcept {r : Except Error α} (h : ∀ a, r = .ok a → owned a) :
    (ofExcept r).Gated client owned := by
  cases r with
  | ok a => exact gated_done (h a rfl)
  | error e => exact gated_fail e

/-- What can be told without the world, whatever it is. -/
theorem gated_told (r : Except Error α) : (ofExcept r).Gated client fun _ => True :=
  gated_ofExcept fun _ _ => trivial

/-- A new identity has nothing to do with clients that have been closed. -/
theorem gated_fresh : fresh.Gated client fun _ => True :=
  .of_apart (fun _ _ => rfl) (fun _ _ => rfl) (fun _ _ => Nat.le_succ _) (fun _ _ _ => rfl)
    (fun _ _ _ _ => trivial)

/-- A close signal has nothing to do with clients that have been closed. -/
theorem gated_fire (subscription : Nat) :
    (change (·.fire subscription)).Gated client fun _ => True := by
  refine .of_apart ?_ ?_ ?_ ?_ fun _ _ _ _ => trivial
  · exact fun _ w => (w.fire_apart subscription).1
  · exact fun _ w => (w.fire_apart subscription).2.1
  · exact fun _ w => Nat.le_of_eq (w.fire_apart subscription).2.2.symm
  · intro n limits w
    exact congrArg (Prod.mk _) (w.fire_reopened subscription n)

/-- What is looked up has nothing to do with clients that have been closed, if it is the same
whoever is open. -/
theorem gated_look {f : World → α} (same : ∀ n w, f (w.reopened n) = f w)
    (h : ∀ w, owned (f w)) : (look f).Gated client owned := by
  refine .of_apart (fun _ _ => rfl) (fun _ _ => rfl) (fun _ _ => Nat.le_refl _) ?_ ?_
  · intro n limits w
    unfold look
    rw [same]
  · rintro _ w _ ⟨rfl⟩
    exact h w

/-- What follows from a result, where a halt ends everything. -/
def resumed (f : α → Action β) (limits : Limits) (r : Except Halt α) (w : World) :
    Except Halt β × World :=
  match r with
  | .ok a => f a limits w
  | .error h => (.error h, w)

/-- A computation that goes on runs first and then resumes with its result. -/
theorem bind_eq_resumed (t : Action α) (f : α → Action β) (limits : Limits) (w : World) :
    (t >>= f) limits w = resumed f limits (t limits w).1 (t limits w).2 := by
  show t.andThen f limits w = _
  unfold andThen resumed
  rcases t limits w with ⟨_ | _, _⟩ <;> rfl

/-- What is put together from gated computations is gated. -/
theorem gated_bind {t : Action α} {f : α → Action β} (first : t.Gated client owned)
    (next : ∀ a, owned a → (f a).Gated client owned') : (t >>= f).Gated client owned' := by
  have goes (limits : Limits) (w w' : World) :
      Moves client w' (resumed f limits (t limits w).1 w').2 := by
    rcases h : (t limits w).1 with halt | a
    · exact .refl client w'
    · exact (next a (first.yields limits w a h)).moves limits w'
  constructor
  · intro limits w
    rw [bind_eq_resumed]
    exact (first.moves limits w).trans (goes limits w _)
  · intro n limits w shut
    rw [bind_eq_resumed, bind_eq_resumed]
    refine (first.compares n limits w shut).andThen ?_ ?_ (goes limits (w.reopened n) _).grows
    · rcases h : (t limits w).1 with halt | a
      · exact .alike rfl fun _ => rfl
      · refine (next a (first.yields limits w a h)).compares n limits _ ?_
        exact fun own => (first.moves limits w).stays n (shut own)
    · rintro ((e' | _) | a) e w' failed _
      · exact ⟨.error (.failed e'), failed, rfl⟩
      · cases failed
      · cases failed
  · intro limits w
    rw [bind_eq_resumed]
    rcases h : (t limits w).1 with halt | a
    · rintro _ ⟨⟩
    · exact (next a (first.yields limits w a h)).yields limits _

/-- Less may be asked of a result. -/
theorem Gated.mono {t : Action α} {weaker : α → Prop} (h : t.Gated client owned)
    (implies : ∀ a, owned a → weaker a) : t.Gated client weaker :=
  ⟨h.moves, h.compares, fun limits w a ha => implies a (h.yields limits w a ha)⟩

end Action

end RemoteDriver
