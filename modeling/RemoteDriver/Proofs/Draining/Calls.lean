import RemoteDriver.Proofs.Closing.Cursors

/-!
# Calls one after the other

A handle that hands things out is asked again and again until it hands out nothing more.  What all
these calls bring, and what is left after them, is the measure of every way of draining the handle
(`Exhausts`).

A loop that calls, puts what it is handed before the rest and stops at the first call that hands out
nothing brings exactly that, and leaves exactly that (`stream_of_exhausts`, `take_of_exhausts`).  So
all loops of this kind agree, whatever the calls do.
-/

namespace RemoteDriver

open Bson (Document)

/-- How a drain ends whose last call brought nothing. -/
def Ending.ofLast : Except Halt Unit → Ending
  | .ok () => finished
  | .error h => .ofHalt h

variable {σ : Type} (next : σ → Limits → World → Except Halt (Option Document) × σ × World)
  (limits : Limits)

/-- What a number of calls bring, one after the other, and what is left after them. -/
def calls : (count : Nat) → σ → World → List (Except Halt (Option Document)) × σ × World
  | 0, s, w => ([], s, w)
  | count + 1, s, w =>
    match next s limits w with
    | (r, s, w) =>
      match calls count s w with
      | (rs, s, w) => (r :: rs, s, w)

/-- Calls hand out these documents, and the next one is the first that does not: either there are no
more, or it fails. -/
def Exhausts (s : σ) (w : World) (ds : List Document) (last : Except Halt Unit) (s' : σ)
    (w' : World) : Prop :=
  calls next limits (ds.length + 1) s w
    = (ds.map (fun d => .ok (some d)) ++ [last.map fun _ => none], s', w')

variable {next limits} {s s' : σ} {w w' : World} {ds : List Document} {last : Except Halt Unit}

/-- A run that hands out nothing ends with its first call. -/
theorem exhausts_nil_iff :
    Exhausts next limits s w [] last s' w'
      ↔ next s limits w = (last.map fun _ => none, s', w') := by
  unfold Exhausts
  simp only [List.length_nil, calls, List.map_nil, List.nil_append]
  rcases next s limits w with ⟨r, s₁, w₁⟩
  simp

/-- A run that hands out something does so with its first call, and goes on from there. -/
theorem exhausts_cons_iff {d : Document} :
    Exhausts next limits s w (d :: ds) last s' w'
      ↔ ∃ s₁ w₁, next s limits w = (.ok (some d), s₁, w₁)
        ∧ Exhausts next limits s₁ w₁ ds last s' w' := by
  unfold Exhausts
  rw [List.length_cons, calls]
  rcases next s limits w with ⟨r, s₁, w₁⟩
  dsimp only
  rcases rest : calls next limits (ds.length + 1) s₁ w₁ with ⟨rs, s₂, w₂⟩
  simp only [List.map_cons, List.cons_append, Prod.mk.injEq, List.cons.injEq]
  constructor
  · rintro ⟨⟨handed, same⟩, left⟩
    exact ⟨s₁, w₁, ⟨handed, rfl, rfl⟩, by rw [rest, same, left.1, left.2]⟩
  · rintro ⟨s₃, w₃, ⟨handed, rfl, rfl⟩, same⟩
    rw [rest] at same
    simp only [Prod.mk.injEq] at same
    exact ⟨⟨handed, same.1⟩, same.2⟩

/-! ## Loops of calls -/

section loops

variable {stream : σ → Limits → World → (List Document × Ending) × σ × World}
  {take : Nat → σ → Limits → World → (List Document × Ending) × σ × World}
  {rank : σ → World → Nat × Nat}

/-- If every document that is handed out leaves less to hand out, the calls come to an end. -/
theorem exists_exhausts (rounds : ∀ s, Round drainTurn (next s) stream rank s) (limits : Limits)
    (s : σ) (w : World) : ∃ ds last s' w', Exhausts next limits s w ds last s' w' := by
  have wf : WellFounded (Prod.Lex (· < ·) (· < ·) : Nat × Nat → Nat × Nat → Prop) :=
    WellFoundedRelation.wf
  induction hr : rank s w using wf.induction generalizing s w with
  | _ r ih =>
    subst hr
    rcases called : next s limits w with ⟨h | _ | d, s₁, w₁⟩
    · exact ⟨[], .error h, s₁, w₁, exhausts_nil_iff.mpr called⟩
    · exact ⟨[], .ok (), s₁, w₁, exhausts_nil_iff.mpr called⟩
    · have less := (rounds s).falls limits w (.ok (some d)) s₁ w₁ _ called rfl
      obtain ⟨ds, last, s', w', rest⟩ := ih _ less s₁ w₁ rfl
      exact ⟨d :: ds, last, s', w', exhausts_cons_iff.mpr ⟨s₁, w₁, called, rest⟩⟩

/-- A stream brings what the calls hand out, and then the error of the last one, if it has one. -/
theorem stream_of_exhausts (rounds : ∀ s, Round drainTurn (next s) stream rank s)
    (h : Exhausts next limits s w ds last s' w') :
    stream s limits w = ((ds, .ofLast last), s', w') := by
  induction ds generalizing s w with
  | nil =>
    rw [(rounds s).unrolls, unrolled, exhausts_nil_iff.mp h]
    rcases last with e | u <;> rfl
  | cons d ds ih =>
    obtain ⟨s₁, w₁, called, rest⟩ := exhausts_cons_iff.mp h
    rw [(rounds s).unrolls, unrolled, called]
    dsimp only [drainTurn]
    rw [ih rest]

/-- The first items of a stream are what the first calls bring, and no more calls are made. -/
theorem take_of_exhausts
    (zero : ∀ s limits w, take 0 s limits w = (([], .stopped), s, w))
    (succ : ∀ count s, take (count + 1) s = unrolled drainTurn (next s) (take count))
    (h : Exhausts next limits s w ds last s' w') (count : Nat) :
    take count s limits w
      = ((ds.take count, if count ≤ ds.length then .stopped else .ofLast last),
        (calls next limits (min count (ds.length + 1)) s w).2) := by
  induction count generalizing s w ds with
  | zero =>
    rw [zero, Nat.zero_min]
    rfl
  | succ count ih =>
    rw [succ, unrolled, Nat.add_min_add_right, calls]
    cases ds with
    | nil =>
      rw [exhausts_nil_iff.mp h]
      rw [List.length_nil, Nat.min_zero]
      rcases last with e | u <;> rfl
    | cons d ds =>
      obtain ⟨s₁, w₁, called, rest⟩ := exhausts_cons_iff.mp h
      rw [called]
      dsimp only [drainTurn]
      rw [ih rest]
      simp

end loops

/-! ## What drains send -/

/-- How a handle of the kind `own` is called on the wire: an exchange that ends the handle is the
last one of its call, the call comes to what the exchange tells, and from then on the handle is
`spent`. -/
structure Wired (next : σ → Limits → World → Except Halt (Option Document) × σ × World)
    (limits : Limits) (sender : Sender) (deadline : Nat → Nat) (own spent : σ → Prop)
    (ends : Exchange → Except Halt Unit → Prop) : Prop where
  /-- A handle stays of its kind. -/
  stays : ∀ s w, own s → own (next s limits w).2.1
  /-- The exchanges of a call are all that it does to the world, and none follows one that ends. -/
  sends : ∀ s w, own s → ∃ es, World.Sends sender deadline w es (next s limits w).2.2
    ∧ ∀ before e after last, es = before ++ e :: after → ends e last →
      after = [] ∧ spent (next s limits w).2.1 ∧ (next s limits w).1.map (fun _ => ()) = last
  /-- A handle that is spent does not fail, does nothing to the world and stays spent. -/
  still : ∀ s w, own s → spent s → (next s limits w).1.map (fun _ => ()) = .ok ()
    ∧ spent (next s limits w).2.1 ∧ (next s limits w).2.2 = w

/-- Where nothing happens to the world, there is no exchange. -/
theorem World.Sends.eq_nil {sender : Sender} {deadline : Nat → Nat} {es : List Exchange}
    (sends : World.Sends sender deadline w es w) : es = [] := by
  have grown := sends.posted
  rw [List.self_eq_append_right, List.map_eq_nil_iff] at grown
  exact grown

section wired

variable {sender : Sender} {deadline : Nat → Nat} {own spent : σ → Prop}
  {ends : Exchange → Except Halt Unit → Prop}

/-- A spent handle is drained without an exchange, up to its end. -/
theorem Wired.drained (wired : Wired next limits sender deadline own spent ends)
    (mine : own s) (past : spent s) (h : Exhausts next limits s w ds last s' w') :
    last = .ok () ∧ w' = w := by
  induction ds generalizing s w with
  | nil =>
    obtain ⟨fine, _, same⟩ := wired.still s w mine past
    rw [exhausts_nil_iff.mp h] at fine same
    refine ⟨?_, same⟩
    rcases last with e | u
    · cases fine
    · rfl
  | cons d ds ih =>
    obtain ⟨s₁, w₁, called, rest⟩ := exhausts_cons_iff.mp h
    obtain ⟨_, past', same⟩ := wired.still s w mine past
    have mine' := wired.stays s w mine
    rw [called] at past' same mine'
    obtain ⟨finished, same'⟩ := ih mine' past' rest
    exact ⟨finished, same'.trans same⟩

/-- In a drain nothing is sent after an exchange that ends the handle, and the drain comes to what
that exchange tells. -/
theorem Wired.ends_drain (wired : Wired next limits sender deadline own spent ends) (mine : own s)
    (h : Exhausts next limits s w ds last s' w') :
    ∃ es, World.Sends sender deadline w es w'
      ∧ ∀ before e after o, es = before ++ e :: after → ends e o → after = [] ∧ last = o := by
  induction ds generalizing s w with
  | nil =>
    obtain ⟨es, sends, told⟩ := wired.sends s w mine
    rw [exhausts_nil_iff.mp h] at sends told
    refine ⟨es, sends, fun before e after o split ending => ?_⟩
    obtain ⟨none, _, same⟩ := told before e after o split ending
    refine ⟨none, ?_⟩
    rw [← same]
    rcases last with e | u <;> rfl
  | cons d ds ih =>
    obtain ⟨s₁, w₁, called, rest⟩ := exhausts_cons_iff.mp h
    obtain ⟨es, sends, told⟩ := wired.sends s w mine
    have mine' := wired.stays s w mine
    rw [called] at sends told mine'
    obtain ⟨fs, sends', told'⟩ := ih mine' rest
    refine ⟨es ++ fs, sends.trans sends', fun before e after o split ending => ?_⟩
    rcases List.append_eq_append_iff.mp split with ⟨more, rfl, later⟩ | ⟨more, rfl, later⟩
    · exact told' more e after o later ending
    · rcases more with _ | ⟨first, more⟩
      · exact told' [] e after o later.symm ending
      · -- The exchange is one of the first call, which leaves a spent handle to the others.
        obtain ⟨rfl, rfl⟩ := List.cons.inj later
        obtain ⟨rfl, past, rfl⟩ := told before e more o rfl ending
        obtain ⟨rfl, same⟩ := wired.drained mine' past rest
        rw [same] at sends'
        exact ⟨sends'.eq_nil, rfl⟩

end wired

/-! ## Drains -/

/-- All ways of draining a handle bring the same and leave the same: calls until one of them hands
out nothing, a stream, and the first items of a stream.  What is posted stops at the exchange that
ends the handle. -/
structure Drains (next : σ → Limits → World → Except Halt (Option Document) × σ × World)
    (stream : σ → Limits → World → (List Document × Ending) × σ × World)
    (take : Nat → σ → Limits → World → (List Document × Ending) × σ × World)
    (limits : Limits) (sender : Sender) (deadline : Nat → Nat)
    (ends : Exchange → Except Halt Unit → Prop) (s : σ) (w : World) (ds : List Document)
    (last : Except Halt Unit) (s' : σ) (w' : World) : Prop where
  /-- The calls up to the first that hands out nothing. -/
  exhausts : Exhausts next limits s w ds last s' w'
  /-- The stream has the documents of the calls as its items, and then the error of the last call,
  if it has one. -/
  streams : stream s limits w = ((ds, .ofLast last), s', w')
  /-- As many items of it as are asked for cost as many calls. -/
  takes : ∀ count, take count s limits w
    = ((ds.take count, if count ≤ ds.length then .stopped else .ofLast last),
      (calls next limits (min count (ds.length + 1)) s w).2)
  /-- Exchanges are all that happens to the world; none follows one that ends the handle, and the
  drain ends as that one tells. -/
  sends : ∃ es, World.Sends sender deadline w es w'
    ∧ ∀ before e after o, es = before ++ e :: after → ends e o → after = [] ∧ last = o

/-- Draining comes to an end, in each of its ways. -/
theorem exists_drains {stream : σ → Limits → World → (List Document × Ending) × σ × World}
    {take : Nat → σ → Limits → World → (List Document × Ending) × σ × World}
    {rank : σ → World → Nat × Nat} {sender : Sender} {deadline : Nat → Nat} {own spent : σ → Prop}
    {ends : Exchange → Except Halt Unit → Prop}
    (rounds : ∀ s, Round drainTurn (next s) stream rank s)
    (zero : ∀ s limits w, take 0 s limits w = (([], .stopped), s, w))
    (succ : ∀ count s, take (count + 1) s = unrolled drainTurn (next s) (take count))
    (wired : Wired next limits sender deadline own spent ends) (mine : own s) (w : World) :
    ∃ ds last s' w',
      Drains next stream take limits sender deadline ends s w ds last s' w' := by
  obtain ⟨ds, last, s', w', h⟩ := exists_exhausts rounds limits s w
  exact ⟨ds, last, s', w', h, stream_of_exhausts rounds h, take_of_exhausts zero succ h,
    wired.ends_drain mine h⟩

end RemoteDriver
