import Mathlib.Data.List.Nodup
import RemoteDriver.Proofs.Surface.Overridden

/-!
# What surfaces mirror

A shape mirrors a public operation whose signature can be read.  The surface that is built from it
finds an operation by its name exactly where the shape mirrors one (`operation?_of_mirrors`,
`mirrors_of_operation?`), and answers a name itself exactly where it was told to
(`isOverridden_iff`).

So calls by name fall into three parts: those of a mirrored operation go to the remote side
(`resolve_of_not_mem`), overridden ones are left to the handle (`resolve_of_mem`), and whatever else
is asked for is misuse (`resolve_of_misuses`).
-/

namespace RemoteDriver

open Bson (Document Value)

namespace Shape

/-- The shape mirrors an operation of this name: a public one that has this signature. -/
def Mirrors (shape : Shape) (name : String) (signature : Signature) : Prop :=
  ∃ spec ∈ shape.operations, spec.name = name ∧ isPrivate name = false
    ∧ Signature.ofText spec.signature = .ok signature

/-- No two operations of a shape have one name. -/
def Distinct (shape : Shape) : Prop := (shape.operations.map (·.name)).Nodup

instance (shape : Shape) : Decidable shape.Distinct :=
  inferInstanceAs (Decidable (shape.operations.map (·.name)).Nodup)

/-- Then there is one signature for each name. -/
theorem Mirrors.unique {shape : Shape} {name : String} {a b : Signature} (distinct : shape.Distinct)
    (first : shape.Mirrors name a) (second : shape.Mirrors name b) : a = b := by
  obtain ⟨spec, member, named, _, reads⟩ := first
  obtain ⟨spec', member', named', _, reads'⟩ := second
  have same : spec = spec' :=
    List.inj_on_of_nodup_map distinct member member' (named.trans named'.symm)
  subst same
  exact Except.ok.inj (reads.symm.trans reads')

end Shape

namespace Surface

/-! ## Finding operations -/

/-- What was inserted is found by its key; every other key finds what it found before. -/
theorem find?_insertBy {α : Type} (key : α → String) (a : α) (name : String) (sorted : List α) :
    (insertBy key a sorted).find? (key · = name)
      = if key a = name then some a else sorted.find? (key · = name) := by
  induction sorted with
  | nil => by_cases h : key a = name <;> simp [insertBy, h]
  | cons b rest ih =>
    unfold insertBy
    by_cases h : key a = name
    · split
      · simp [h]
      · split
        · simp [h]
        · next other =>
          have different : key b ≠ name := fun same => other (h.trans same.symm)
          simp [different, ih, h]
    · split
      · simp [h]
      · split
        · next same =>
          have different : key b ≠ name := fun found => h (same.trans found)
          simp [h, different]
        · simp [List.find?_cons, ih, h]

/-- Of all that is inserted under a key, the last is found. -/
theorem find?_foldl_insertBy {α : Type} (key : α → String) (name : String)
    (given sorted : List α) :
    (given.foldl (fun sorted a => insertBy key a sorted) sorted).find? (key · = name)
      = (given.reverse.find? (key · = name)).or (sorted.find? (key · = name)) := by
  induction given generalizing sorted with
  | nil => rfl
  | cons a rest ih =>
    rw [List.foldl_cons, ih, find?_insertBy, List.reverse_cons, List.find?_append, Option.or_assoc]
    by_cases h : key a = name <;> simp [h]

variable {shape : Shape} {overrides : List String} {name : String}

/-- The operation of a name is the last one of the shape that is public and can be read. -/
theorem operation?_build (shape : Shape) (overrides : List String) (name : String) :
    (build shape overrides).operation? name
      = ((publicOperations shape).filterMap read?).reverse.find? (·.name = name) := by
  have found := find?_foldl_insertBy Operation.name name
    ((publicOperations shape).filterMap read?) []
  rw [List.find?_nil, Option.or_none] at found
  exact found

/-- A specification is read as its own name and its own signature. -/
theorem of_read? {spec : OperationSpec} {operation : Operation}
    (h : read? spec = some operation) :
    spec.name = operation.name ∧ Signature.ofText spec.signature = .ok operation.signature := by
  unfold read? at h
  split at h
  · next signature reads =>
    cases h
    exact ⟨rfl, reads⟩
  · cases h

/-- An operation that is found by its name is mirrored. -/
theorem mirrors_of_operation? {operation : Operation}
    (h : (build shape overrides).operation? name = some operation) :
    shape.Mirrors name operation.signature := by
  rw [operation?_build] at h
  have named : operation.name = name := by simpa using List.find?_some h
  have member := List.mem_of_find?_eq_some h
  rw [List.mem_reverse, List.mem_filterMap] at member
  obtain ⟨spec, member, reads⟩ := member
  obtain ⟨same, reads⟩ := of_read? reads
  obtain ⟨listed, visible⟩ := List.mem_filter.mp member
  have own : spec.name = name := same.trans named
  rw [own] at visible
  exact ⟨spec, listed, own, by simpa using visible, reads⟩

/-- An operation that is mirrored is found by its name. -/
theorem operation?_of_mirrors (overrides : List String) {signature : Signature}
    (distinct : shape.Distinct) (h : shape.Mirrors name signature) :
    ∃ operation, (build shape overrides).operation? name = some operation
      ∧ operation.signature = signature := by
  rcases found : (build shape overrides).operation? name with _ | operation
  · obtain ⟨spec, member, named, visible, reads⟩ := h
    have readable : read? spec = some ⟨spec.name, spec.kind, signature, trimmedDoc spec.doc⟩ := by
      unfold read?
      rw [reads]
    have listed : spec ∈ publicOperations shape := by
      refine List.mem_filter.mpr ⟨member, ?_⟩
      rw [named, visible]
      rfl
    have known := List.mem_filterMap.mpr ⟨spec, listed, readable⟩
    rw [operation?_build, List.find?_eq_none] at found
    have absent := found _ (List.mem_reverse.mpr known)
    exact absurd (decide_eq_true named) absent
  · exact ⟨operation, rfl, (mirrors_of_operation? found).unique distinct h⟩

/-- A name that finds no operation is not mirrored. -/
theorem not_mirrors_of_none (distinct : shape.Distinct)
    (none : (build shape overrides).operation? name = none) (signature : Signature) :
    ¬ shape.Mirrors name signature := by
  intro mirrors
  obtain ⟨operation, found, _⟩ := operation?_of_mirrors overrides distinct mirrors
  cases none.symm.trans found

/-- The handle answers what it was told to, and nothing else. -/
theorem isOverridden_iff :
    (build shape overrides).isOverridden name = true ↔ name ∈ overrides := by
  constructor
  · intro h
    have known : name ∈ (build shape overrides).overrides := List.contains_iff_mem.mp h
    rcases mem_foldl_insertBy id known with given | none
    · exact given
    · cases none
  · exact isOverridden_of_mem

end Surface

/-! ## Calls by name -/

namespace Shape

/-- A call fits an operation that is mirrored. -/
def Fits (shape : Shape) (call : Call) : Prop :=
  ∃ signature, shape.Mirrors call.name signature
    ∧ signature.bind call.name call.args call.kwargs = .ok ()

/-- A call that no handle of this shape serves: its name is private, or neither mirrored nor
answered by the handle, or its arguments do not fit the operation. -/
def Misuses (shape : Shape) (overrides : List String) (call : Call) : Prop :=
  isPrivate call.name = true
    ∨ ((∀ signature, ¬ shape.Mirrors call.name signature) ∧ call.name ∉ overrides)
    ∨ ∃ signature, shape.Mirrors call.name signature
      ∧ signature.bind call.name call.args call.kwargs ≠ .ok ()

/-- A handle with a surface that is built from a shape without repetitions, and that answers no
private names itself. -/
structure Serves (shape : Shape) (overrides : List String) (g : Gateway) : Prop where
  /-- The surface is built from the shape. -/
  built : g.surface = .build shape overrides
  /-- No two operations have one name. -/
  distinct : shape.Distinct
  /-- The handle answers public names. -/
  visible : ∀ name ∈ overrides, isPrivate name = false

end Shape

/-- Arguments that do not fit are a misuse of the operation. -/
theorem Signature.bind_error {s : Signature} {operation : String} {args : List Value}
    {kwargs : Document} {err : Error} (h : s.bind operation args kwargs = .error err) :
    ∃ message, err = .usage operation message := by
  unfold Signature.bind at h
  split at h <;> cases h
  exact ⟨_, rfl⟩

namespace Gateway

/-- A call by name that is not served is a misuse of this name. -/
theorem resolve_error {g : Gateway} {name : String} {args : List Value} {kwargs : Document}
    {err : Error} (h : g.resolve name args kwargs = .error err) :
    ∃ message, err = .usage name message := by
  unfold resolve at h
  split at h
  · next unbound =>
    cases h
    unfold Surface.binding at unbound
    split at unbound
    · cases unbound
    · split at unbound
      · cases unbound
      · split at unbound <;> cases unbound <;> exact ⟨_, rfl⟩
  · cases h
  · cases h
  · split at h
    · next misfit =>
      cases h
      exact Signature.bind_error misfit
    · cases h

variable {shape : Shape} {overrides : List String} {g : Gateway} {call : Call}

/-- A call that fits is dispatched as it is. -/
theorem forward_of_fits (serves : shape.Serves overrides g) (fits : shape.Fits call) :
    g.forward call.name call.args call.kwargs = g.connection.dispatch g.sender call g.route := by
  obtain ⟨signature, mirrors, bound⟩ := fits
  obtain ⟨operation, found, same⟩ :=
    Surface.operation?_of_mirrors overrides serves.distinct mirrors
  rw [← serves.built] at found
  subst same
  unfold forward
  rw [found]
  dsimp only
  rw [bound]

/-- A call that does not fit is refused. -/
theorem forward_of_not_fits (serves : shape.Serves overrides g) (misfits : ¬ shape.Fits call) :
    ∃ message, g.forward call.name call.args call.kwargs
      = Action.fail (.usage call.name message) := by
  unfold forward
  split
  · exact ⟨_, rfl⟩
  · next operation found =>
    rw [serves.built] at found
    rcases bound : operation.signature.bind call.name call.args call.kwargs with err | fits
    · obtain ⟨message, rfl⟩ := Signature.bind_error bound
      exact ⟨message, rfl⟩
    · exact absurd ⟨_, Surface.mirrors_of_operation? found, bound⟩ misfits

/-- Who serves a name that the handle does not answer itself. -/
theorem resolve_of_not_mem (serves : shape.Serves overrides g) (other : call.name ∉ overrides) :
    (g.resolve call.name call.args call.kwargs = .ok .remote
        ∧ ∃ signature, shape.Mirrors call.name signature)
      ∨ ((∀ signature, ¬ shape.Mirrors call.name signature)
        ∧ ∃ message,
          g.resolve call.name call.args call.kwargs = .error (.usage call.name message)) := by
  have own : ¬ (Surface.build shape overrides).isOverridden call.name = true :=
    fun h => other (Surface.isOverridden_iff.mp h)
  unfold resolve Surface.binding
  rw [serves.built, if_neg own]
  rcases found : (Surface.build shape overrides).operation? call.name with _ | operation
  · refine .inr ⟨Surface.not_mirrors_of_none serves.distinct found, ?_⟩
    dsimp only
    by_cases hidden : isPrivate call.name = true
    · rw [if_pos hidden]
      exact ⟨_, rfl⟩
    · rw [if_neg hidden]
      exact ⟨_, rfl⟩
  · exact .inl ⟨rfl, _, Surface.mirrors_of_operation? found⟩

/-- Who serves a name that the handle answers itself. -/
theorem resolve_of_mem (serves : shape.Serves overrides g) (own : call.name ∈ overrides) :
    (g.resolve call.name call.args call.kwargs = .ok .handle
        ∧ ∀ signature, shape.Mirrors call.name signature →
          signature.bind call.name call.args call.kwargs = .ok ())
      ∨ ∃ message, g.resolve call.name call.args call.kwargs = .error (.usage call.name message)
        ∧ ¬ shape.Fits call := by
  have overridden : (Surface.build shape overrides).isOverridden call.name = true :=
    Surface.isOverridden_iff.mpr own
  unfold resolve Surface.binding
  rw [serves.built, if_pos overridden]
  rcases found : (Surface.build shape overrides).operation? call.name with _ | operation
  · refine .inl ⟨rfl, fun signature mirrors => ?_⟩
    exact absurd mirrors (Surface.not_mirrors_of_none serves.distinct found signature)
  · have mirrors := Surface.mirrors_of_operation? found
    dsimp only
    rcases bound : operation.signature.bind call.name call.args call.kwargs with err | fits
    · obtain ⟨message, rfl⟩ := Signature.bind_error bound
      refine .inr ⟨message, rfl, ?_⟩
      rintro ⟨signature, mirrors', fits⟩
      rw [mirrors'.unique serves.distinct mirrors, bound] at fits
      cases fits
    · refine .inl ⟨rfl, fun signature mirrors' => ?_⟩
      rw [mirrors'.unique serves.distinct mirrors]
      exact bound

/-- A call that is misuse is refused as such, or turned down where it is forwarded. -/
theorem resolve_of_misuses (serves : shape.Serves overrides g)
    (misuses : shape.Misuses overrides call) :
    (∃ message, g.resolve call.name call.args call.kwargs = .error (.usage call.name message))
      ∨ (g.resolve call.name call.args call.kwargs = .ok .remote ∧ ¬ shape.Fits call) := by
  have hidden (h : isPrivate call.name = true) (signature : Signature) :
      ¬ shape.Mirrors call.name signature := by
    rintro ⟨_, _, _, visible, _⟩
    rw [h] at visible
    cases visible
  have misfit {signature : Signature} (mirrors : shape.Mirrors call.name signature)
      (unbound : signature.bind call.name call.args call.kwargs ≠ .ok ()) : ¬ shape.Fits call := by
    rintro ⟨signature', mirrors', bound⟩
    rw [mirrors'.unique serves.distinct mirrors] at bound
    exact unbound bound
  by_cases own : call.name ∈ overrides
  · rcases resolve_of_mem serves own with ⟨_, fits⟩ | ⟨message, refused, _⟩
    · rcases misuses with h | ⟨_, other⟩ | ⟨signature, mirrors, unbound⟩
      · rw [serves.visible _ own] at h
        cases h
      · exact absurd own other
      · exact absurd (fits signature mirrors) unbound
    · exact .inl ⟨message, refused⟩
  · rcases resolve_of_not_mem serves own with ⟨remote, signature, mirrors⟩ | ⟨_, refused⟩
    · refine .inr ⟨remote, ?_⟩
      rcases misuses with h | ⟨unknown, _⟩ | ⟨signature', mirrors', unbound⟩
      · exact absurd mirrors (hidden h signature)
      · exact absurd mirrors (unknown signature)
      · exact misfit mirrors' unbound
    · exact .inl refused

end Gateway

/-! ## The five kinds of handles -/

/-- The gateway of a client serves the shape of clients. -/
theorem Client.serves (c : Client) : Shape.client.Serves localOperations c.gateway :=
  ⟨rfl, by decide +kernel, by decide +kernel⟩

/-- The gateway of a database serves the shape of databases. -/
theorem Database.serves (d : Database) : Shape.database.Serves localOperations d.gateway :=
  ⟨rfl, by decide +kernel, by decide +kernel⟩

/-- The gateway of a collection serves the shape of collections. -/
theorem Collection.serves (c : Collection) : Shape.collection.Serves localOperations c.gateway :=
  ⟨rfl, by decide +kernel, by decide +kernel⟩

/-- The gateway of a cursor serves the shape of cursors. -/
theorem Cursor.serves (c : Cursor) : Shape.cursor.Serves localOperations c.gateway :=
  ⟨rfl, by decide +kernel, by decide +kernel⟩

/-- The gateway of a change stream serves the shape of change streams. -/
theorem ChangeStream.serves (s : ChangeStream) :
    Shape.changeStream.Serves localOperations s.gateway :=
  ⟨rfl, by decide +kernel, by decide +kernel⟩

end RemoteDriver
