import RemoteDriver.Proofs.Json.RoundTrip
import RemoteDriver.Proofs.Surface.Invoking

/-!
# What an envelope tells of its call

A call has an envelope if and only if each of its values has a form on the wire; otherwise the
first value without one, arguments by position before those by name, tells why there is none
(`ofCall_eq_error`).  The envelope is read back from the text that is posted (`ofText?_body`), so
that no name, text or token can pass for another part of the request.

The main statement is `body_determines_call`.
-/

namespace RemoteDriver

open Bson (Value)
open Json (Exact Reads Written)

/-! ## Values one after the other -/

section each

variable {α β : Type} {f : α → Except Error β} {vs : List α} {fault : Error}

/-- The first of some values on which `f` fails makes it fail in this way. -/
def FirstFails (f : α → Except Error β) (vs : List α) (fault : Error) : Prop :=
  ∃ before v after, vs = before ++ v :: after ∧ (∀ u ∈ before, ∃ b, f u = .ok b)
    ∧ f v = .error fault

/-- The first value fails, or it does not and the first of the others does. -/
theorem FirstFails.cons_iff {v : α} :
    FirstFails f (v :: vs) fault
      ↔ f v = .error fault ∨ (∃ b, f v = .ok b) ∧ FirstFails f vs fault := by
  constructor
  · rintro ⟨_ | ⟨u, before⟩, v, after, same, fine, fails⟩
    · obtain ⟨rfl, rfl⟩ := List.cons.inj same
      exact .inl fails
    · obtain ⟨rfl, rfl⟩ := List.cons.inj same
      rw [List.forall_mem_cons] at fine
      exact .inr ⟨fine.1, before, v, after, rfl, fine.2, fails⟩
  · rintro (fails | ⟨first, before, u, after, rfl, fine, fails⟩)
    · exact ⟨[], v, vs, rfl, by simp, fails⟩
    · exact ⟨v :: before, u, after, rfl, List.forall_mem_cons.mpr ⟨first, fine⟩, fails⟩

/-- The first value is encoded before the others. -/
theorem mapM_cons_eq (v : α) (vs : List α) :
    (v :: vs).mapM f = (f v).bind fun b => (vs.mapM f).map (b :: ·) := by
  rw [List.mapM_cons]
  rcases f v with e | b
  · rfl
  · rcases vs.mapM f with e | bs <;> rfl

/-- Values are encoded together if and only if each is encoded. -/
theorem mapM_eq_ok {bs : List β} :
    vs.mapM f = .ok bs ↔ List.Forall₂ (fun v b => f v = .ok b) vs bs := by
  induction vs generalizing bs with
  | nil =>
    rw [List.forall₂_nil_left_iff, List.mapM_nil]
    exact ⟨fun same => (Except.ok.inj same).symm, fun none => none ▸ rfl⟩
  | cons v vs ih =>
    rw [mapM_cons_eq, List.forall₂_cons_left_iff]
    simp only [← ih]
    rcases f v with e | b
    · simp [Except.bind]
    · rcases vs.mapM f with e | cs <;> simp [Except.bind, Except.map, eq_comm]

/-- Values are refused together for the first of them that is refused. -/
theorem mapM_eq_error : vs.mapM f = .error fault ↔ FirstFails f vs fault := by
  induction vs with
  | nil => simp [FirstFails, pure, Except.pure]
  | cons v vs ih =>
    rw [FirstFails.cons_iff, ← ih, mapM_cons_eq]
    rcases f v with e | b
    · simp [Except.bind]
    · rcases vs.mapM f with e | bs <;> simp [Except.bind, Except.map]

/-- `f` fails on no value if and only if it fails on none in the first place. -/
theorem forall_exists_ok_iff :
    (∀ v ∈ vs, ∃ b, f v = .ok b) ↔ ∀ fault, ¬FirstFails f vs fault := by
  constructor
  · rintro each fault ⟨before, v, after, rfl, -, fails⟩
    obtain ⟨b, works⟩ := each v (by simp)
    rw [fails] at works
    cases works
  · intro none v member
    rcases outcome : vs.mapM f with fault | bs
    · exact absurd (mapM_eq_error.mp outcome) (none fault)
    · obtain ⟨i, inside, rfl⟩ := List.mem_iff_getElem.mp member
      have works := mapM_eq_ok.mp outcome
      exact ⟨_, works.get inside (works.length_eq ▸ inside)⟩

end each

/-! ## Encoding -/

/-- The values of a call, arguments by position before those by name. -/
def Call.values (call : Call) : List Value := call.args ++ call.kwargs.map (·.2)

namespace Envelope

section encoding

variable {codec : Codec}

/-- Arguments by position are encoded one after the other. -/
theorem encodeArgs_eq (vs : List Value) : encodeArgs codec vs = vs.mapM codec.encode := by
  induction vs with
  | nil => rfl
  | cons v vs ih =>
    rw [encodeArgs, mapM_cons_eq, ih]
    rcases codec.encode v with e | j
    · rfl
    · rcases vs.mapM codec.encode with e | js <;> rfl

/-- Named values are encoded as values are, and keep their names. -/
theorem encodeKwargs_eq (fields : Bson.Document) :
    encodeKwargs codec fields
      = ((fields.map (·.2)).mapM codec.encode).map ((fields.map (·.1)).zip ·) := by
  induction fields with
  | nil => rfl
  | cons field fields ih =>
    obtain ⟨name, v⟩ := field
    rw [encodeKwargs, ih]
    simp only [List.map_cons, mapM_cons_eq]
    rcases codec.encode v with e | j
    · rfl
    · rcases rest : (fields.map (·.2)).mapM codec.encode with e | js <;>
        simp [rest, Except.map, Except.bind]

/-- A call without an envelope is a misuse; the first value without a form on the wire tells why. -/
theorem ofCall_eq_error {call : Call} {route : Route} {err : Error} :
    ofCall codec call route = .error err
      ↔ ∃ fault, FirstFails codec.encode call.values fault
        ∧ err = .usage call.name ("argument cannot be sent: " ++ fault.message) := by
  simp only [← mapM_eq_error, Call.values, List.mapM_append]
  rw [ofCall, encodeArgs_eq, encodeKwargs_eq]
  rcases call.args.mapM codec.encode with e | js
  · simp [bind, Except.bind, refused, eq_comm]
  · rcases rest : (call.kwargs.map (·.2)).mapM codec.encode with e | ks
    · simp [bind, Except.bind, Except.map, rest, refused, eq_comm]
    · simp [bind, Except.bind, Except.map, rest, pure, Except.pure]

/-- A call has an envelope if and only if each of its values has a form on the wire. -/
theorem exists_ofCall_iff {call : Call} {route : Route} :
    (∃ e, ofCall codec call route = .ok e) ↔ ∀ v ∈ call.values, ∃ j, codec.encode v = .ok j := by
  rw [forall_exists_ok_iff]
  constructor
  · rintro ⟨e, made⟩ fault fails
    rw [ofCall_eq_error.mpr ⟨fault, fails, rfl⟩] at made
    cases made
  · intro none
    rcases made : ofCall codec call route with err | e
    · obtain ⟨fault, fails, -⟩ := ofCall_eq_error.mp made
      exact absurd fails (none fault)
    · exact ⟨e, rfl⟩

end encoding

end Envelope

/-! ## Reading back -/

namespace Route

/-- The members of a route on the wire, all of them texts. -/
def texts (r : Route) : List (String × String) :=
  ("target", r.target.name) :: (r.database.toList.map ("database", ·)
    ++ r.collection.toList.map ("collection", ·) ++ r.state.toList.map ("state", ·))

/-- A route is written name by name. -/
theorem toJson_eq (r : Route) : r.toJson = .object (r.texts.map fun (k, s) => (k, .string s)) := by
  obtain ⟨_, _ | _, _ | _, _ | _⟩ := r <;> rfl

/-- The tree of a route on the wire. -/
def tree (r : Route) : Written := .object (r.texts.map fun (k, s) => (some k, .string (some s)))

/-- A route is read back as it was written. -/
theorem reads_tree (r : Route) : Reads r.toJson r.tree := by
  rw [toJson_eq]
  refine .object ?_
  rw [List.forall₂_map_left_iff, List.forall₂_map_right_iff, List.forall₂_same]
  exact fun t _ => ⟨rfl, .string t.2⟩

/-- A route is read from its tree; what is left out is absent. -/
theorem route?_tree (r : Route) : Envelope.route? r.tree = some r := by
  obtain ⟨target, database, collection, state⟩ := r
  have named : Target.ofName? target.name = some target := by cases target <;> rfl
  rcases database with _ | database <;> rcases collection with _ | collection <;>
    rcases state with _ | state <;>
  · show (Target.ofName? target.name).bind _ = _
    rw [named]
    rfl

end Route

namespace Envelope

/-- An envelope that its text determines: its values are without doubles, and its arguments by name
have names of their own.  The values stand two levels deep in the text, so that they may nest one
hundred and twenty-five levels themselves. -/
structure Plain (e : Envelope) : Prop where
  /-- The arguments by position are determined by their texts. -/
  args : ∀ v ∈ e.args, Exact (Json.maxDepth - 2) v
  /-- No name stands twice. -/
  names : (e.kwargs.map (·.1)).Nodup
  /-- The arguments by name are determined by their texts. -/
  kwargs : ∀ m ∈ e.kwargs, Exact (Json.maxDepth - 2) m.2

/-- Such an envelope is read back from what is posted. -/
theorem ofText?_body {e : Envelope} (plain : e.Plain) : ofText? e.body = some e := by
  obtain ⟨args, read, values⟩ :=
    Json.exists_items fun v member => (plain.args v member).exists_reads
  obtain ⟨kwargs, named, namedValues⟩ :=
    Json.exists_members fun m member => (plain.kwargs m member).exists_reads
  have tree : Reads e.toJson (.object [(some "operation", .string (some e.operation)),
      (some "args", .array args), (some "kwargs", .object kwargs),
      (some "context", e.context.tree)]) :=
    .object (.cons ⟨rfl, .string _⟩ (.cons ⟨rfl, .array read⟩ (.cons ⟨rfl, .object named⟩
      (.cons ⟨rfl, e.context.reads_tree⟩ .nil))))
  rw [ofText?, body, tree.ofText?_text]
  show (do
    let args ← Written.values (Json.maxDepth - 2) args
    let kwargs ← (Written.namedValues (Json.maxDepth - 2) kwargs).map Json.distinct
    let context ← route? e.context.tree
    return (⟨e.operation, args, kwargs, context⟩ : Envelope)) = _
  rw [values, namedValues, e.context.route?_tree]
  show some _ = _
  rw [Json.distinct_of_nodup plain.names]

/-- A call has an envelope exactly where each of its values has a form on the wire, and the envelope
has these forms in their order and by their names; where it has none, the first value without a
form is to blame.  What is posted of an envelope is read as that envelope and of no other. -/
theorem body_determines_call :
    (∀ (codec : Codec) (call : Call) (route : Route),
      (∀ e, ofCall codec call route = .ok e
          ↔ e.operation = call.name ∧ e.context = route ∧ call.EncodesAs codec e.args e.kwargs)
        ∧ ((∃ e, ofCall codec call route = .ok e)
          ↔ ∀ v ∈ call.values, ∃ j, codec.encode v = .ok j)
        ∧ ∀ err, ofCall codec call route = .error err
          ↔ ∃ fault, FirstFails codec.encode call.values fault
            ∧ err = .usage call.name ("argument cannot be sent: " ++ fault.message))
      ∧ (∀ e : Envelope, e.Plain → ofText? e.body = some e)
      ∧ ∀ e f : Envelope, e.Plain → f.Plain → e.body = f.body → e = f := by
  refine ⟨fun codec call route => ⟨fun e => ?_, exists_ofCall_iff, fun _ => ofCall_eq_error⟩,
    fun _ => ofText?_body, fun e f plain plain' same => ?_⟩
  · rw [ofCall_eq_ok]
    constructor
    · rintro ⟨args, kwargs, encodes, rfl⟩
      exact ⟨rfl, rfl, encodes⟩
    · obtain ⟨operation, args, kwargs, context⟩ := e
      rintro ⟨rfl, rfl, encodes⟩
      exact ⟨args, kwargs, encodes, rfl⟩
  · have read := ofText?_body plain'
    rw [← same, ofText?_body plain] at read
    exact Option.some.inj read

/-- Marks in names, values and tokens do not end them. -/
theorem body_determines_call_of_marks :
    ∃ e : Envelope, e.operation = "find\"" ∧ e.context.state = some "\\\"\x7d," ∧ e.Plain
      ∧ ofText? e.body = some e := by
  have bounds : Exact (Json.maxDepth - 2)
      (.array [.string "],\"", .number (.whole Number.minInt64)]) :=
    .array (by
      rw [List.forall_mem_cons, List.forall_mem_singleton]
      exact ⟨.string _, .whole (by decide) (by decide)⟩)
  have plain : Plain ⟨"find\"", [.array [.string "],\"", .number (.whole Number.minInt64)]],
      [("é\n\u0001", .null)], ⟨.changeStream, some "\"", none, some "\\\"\x7d,"⟩⟩ := by
    refine ⟨?_, List.nodup_singleton _, ?_⟩
    · rw [List.forall_mem_singleton]
      exact bounds
    · rw [List.forall_mem_singleton]
      exact .null
  exact ⟨_, rfl, rfl, plain, body_determines_call.2.1 _ plain⟩

end Envelope

end RemoteDriver
