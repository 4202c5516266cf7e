import RemoteDriver.Outcome

/-!
# Surfaces without forwarded operations

A surface is built from a shape and from overrides by sorted insertion.  What is known of it comes
from the shape, and every override is in it; so a handle that overrides all public operations of
its shape answers every call by name itself.  Cursors and change streams are such handles.
-/

namespace RemoteDriver

namespace Surface

/-- Inserting an element leaves the others in and adds nothing else. -/
theorem mem_insertBy {α : Type} (key : α → String) {a b : α} {sorted : List α}
    (h : b ∈ insertBy key a sorted) : b = a ∨ b ∈ sorted := by
  induction sorted with
  | nil => simpa [insertBy] using h
  | cons c rest ih =>
    rw [insertBy] at h
    split at h
    · simpa using h
    · split at h
      · rcases List.mem_cons.mp h with rfl | h
        · exact Or.inl rfl
        · exact Or.inr (List.mem_cons_of_mem _ h)
      · rcases List.mem_cons.mp h with rfl | h
        · exact Or.inr List.mem_cons_self
        · rcases ih h with rfl | h
          · exact Or.inl rfl
          · exact Or.inr (List.mem_cons_of_mem _ h)

/-- Inserting a name keeps every name that is there. -/
theorem mem_insertBy_id {a b : String} {sorted : List String} (h : b = a ∨ b ∈ sorted) :
    b ∈ insertBy id a sorted := by
  induction sorted with
  | nil => simpa [insertBy] using h
  | cons c rest ih =>
    rw [insertBy]
    split
    · simpa using h
    · split
      · next same =>
        have : a = c := same
        subst this
        simpa using h
      · rcases h with rfl | h
        · exact List.mem_cons_of_mem _ (ih (Or.inl rfl))
        · rcases List.mem_cons.mp h with rfl | h
          · exact List.mem_cons_self
          · exact List.mem_cons_of_mem _ (ih (Or.inr h))

/-- What is inserted one after the other is all that was there or was given. -/
theorem mem_foldl_insertBy {α : Type} (key : α → String) {b : α} {given sorted : List α}
    (h : b ∈ given.foldl (fun sorted a => insertBy key a sorted) sorted) :
    b ∈ given ∨ b ∈ sorted := by
  induction given generalizing sorted with
  | nil => exact Or.inr h
  | cons a rest ih =>
    rcases ih h with h | h
    · exact Or.inl (List.mem_cons_of_mem _ h)
    · rcases mem_insertBy key h with rfl | h
      · exact Or.inl List.mem_cons_self
      · exact Or.inr h

/-- All names that are inserted one after the other are there in the end. -/
theorem mem_foldl_insertBy_id {b : String} {given sorted : List String}
    (h : b ∈ given ∨ b ∈ sorted) :
    b ∈ given.foldl (fun sorted a => insertBy id a sorted) sorted := by
  induction given generalizing sorted with
  | nil => simpa using h
  | cons a rest ih =>
    apply ih
    rcases h with h | h
    · rcases List.mem_cons.mp h with rfl | h
      · exact Or.inr (mem_insertBy_id (Or.inl rfl))
      · exact Or.inl h
    · exact Or.inr (mem_insertBy_id (Or.inr h))

/-- A known operation is a public one of the shape. -/
theorem exists_spec_of_mem_known {shape : Shape} {overrides : List String}
    {operation : Operation} (h : operation ∈ (build shape overrides).known) :
    ∃ spec ∈ publicOperations shape, spec.name = operation.name := by
  have h : operation ∈ (publicOperations shape).filterMap read? ∨ operation ∈ [] :=
    mem_foldl_insertBy _ h
  simp only [List.not_mem_nil, or_false, List.mem_filterMap] at h
  obtain ⟨spec, hs, hr⟩ := h
  refine ⟨spec, hs, ?_⟩
  unfold read? at hr
  split at hr
  · cases hr
    rfl
  · cases hr

/-- Every override is answered by the handle. -/
theorem isOverridden_of_mem {shape : Shape} {overrides : List String} {name : String}
    (h : name ∈ overrides) : (build shape overrides).isOverridden name = true :=
  List.contains_iff_mem.mpr (mem_foldl_insertBy_id (Or.inl h))

/-- Where all public operations of a shape are overridden, no call by name is forwarded. -/
theorem binding_ne_generated {shape : Shape} {overrides : List String}
    (all : ∀ spec ∈ publicOperations shape, spec.name ∈ overrides) (name : String)
    (operation : Operation) :
    (build shape overrides).binding name ≠ .ok (.generated operation) := by
  intro h
  unfold binding at h
  split at h
  · cases h
  · next notOverridden =>
    split at h
    · next known hk =>
      obtain ⟨spec, hs, same⟩ := exists_spec_of_mem_known (List.mem_of_find?_eq_some hk)
      have named : known.name = name := by simpa using List.find?_some hk
      exact notOverridden (isOverridden_of_mem (named ▸ same ▸ all spec hs))
    · split at h <;> cases h

end Surface

namespace Gateway

/-- A name that the handle answers itself is not left to the remote side. -/
theorem resolve_ne_remote_of_overridden {g : Gateway} {name : String}
    (own : g.surface.isOverridden name = true) (args : List Bson.Value) (kwargs : Bson.Document) :
    g.resolve name args kwargs ≠ .ok .remote := by
  have bound : g.surface.binding name = .ok (.overridden (g.surface.operation? name)) := if_pos own
  unfold resolve
  rw [bound]
  intro h
  split at h
  · next hb => cases hb
  · next hb => cases hb
  · cases h
  · split at h <;> cases h

/-- A gateway to such a surface never leaves a call to the remote side. -/
theorem resolve_ne_remote {g : Gateway} {shape : Shape} {overrides : List String}
    (built : g.surface = .build shape overrides)
    (all : ∀ spec ∈ Surface.publicOperations shape, spec.name ∈ overrides) (name : String)
    (args : List Bson.Value) (kwargs : Bson.Document) :
    g.resolve name args kwargs ≠ .ok .remote := by
  unfold resolve
  rw [built]
  have never := Surface.binding_ne_generated all name
  intro h
  split at h
  · cases h
  · next operation hb => exact never operation hb
  · cases h
  · split at h <;> cases h

end Gateway

/-- A cursor answers all its operations itself. -/
theorem Cursor.resolve_ne_remote (c : Cursor) (name : String) (args : List Bson.Value)
    (kwargs : Bson.Document) : c.gateway.resolve name args kwargs ≠ .ok .remote :=
  Gateway.resolve_ne_remote (show c.gateway.surface = .build .cursor localOperations from rfl)
    (by decide) name args kwargs

/-- A change stream answers all its operations itself. -/
theorem ChangeStream.resolve_ne_remote (s : ChangeStream) (name : String)
    (args : List Bson.Value) (kwargs : Bson.Document) :
    s.gateway.resolve name args kwargs ≠ .ok .remote :=
  Gateway.resolve_ne_remote
    (show s.gateway.surface = .build .changeStream localOperations from rfl)
    (by decide) name args kwargs

end RemoteDriver
